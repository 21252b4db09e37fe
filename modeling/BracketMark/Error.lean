import BracketMark.Text.Quoted

/-!
# Errors

Building a document, finding a template, rendering and configuring fail for different
reasons and at different times, so each has its own type of causes.  The wording of a cause
is given in one place, its `message`.
-/

namespace BracketMark

open Text

/-- Why no document tree could be built. -/
inductive BuildError where
  /-- The parser found nothing at all. -/
  | empty
  /-- No loaded library exports a tag of this name. -/
  | unknownTag (name : String)
  /-- A tag definition with a blank name. -/
  | unnamedTag
  /-- No library of this name is in the catalog. -/
  | unknownLibrary (name : String)
  deriving DecidableEq, Repr

def BuildError.message : BuildError → String
  | .empty => "nothing to compile: the document is empty"
  | .unknownTag name => name ++ " is not a valid tag name"
  | .unnamedTag => "tag definitions must have a name"
  | .unknownLibrary name => "tag library '" ++ name ++ "' is not available"

/-- Why a template source could not answer. -/
inductive LookupError where
  /-- A template directory that is no directory. -/
  | noDirectory (path : String)
  /-- A template name that could lead out of its directory. -/
  | badName (name : String)
  /-- A template file that cannot be read. -/
  | unreadable (path : String) (reason : String)
  deriving DecidableEq, Repr

def LookupError.message : LookupError → String
  | .noDirectory path => "Template directory not found: " ++ path
  | .badName name => "Invalid template name: \"" ++ name ++ "\""
  | .unreadable path reason => "Failed to read template \"" ++ path ++ "\": " ++ reason

/-- Why a document could not be rendered. -/
inductive RenderError where
  /-- A template that is not well formed, or that asks for what there is not. -/
  | template (detail : String)
  /-- A template that no source has. -/
  | noTemplate (detail : String)
  /-- The hook of a tag refused. -/
  | hook (tag : String) (reason : String)
  /-- Anything else. -/
  | operation (detail : String)
  deriving DecidableEq, Repr

namespace RenderError

def missing (name : String) : RenderError :=
  .noTemplate ("template not found: template " ++ quoted name ++ " does not exist")

def sourceFailed : RenderError :=
  .operation "invalid operation: template source failed"

def message : RenderError → String
  | .template detail => "template error: " ++ detail
  | .noTemplate detail => "template not found: " ++ detail
  | .hook tag reason => "[" ++ tag ++ "] cannot be rendered: " ++ reason
  | .operation detail => detail

end RenderError

/-- Why there is no configuration, or no engine for it. -/
inductive ConfigError where
  /-- The configuration file cannot be read. -/
  | unreadable (path : String) (reason : String)
  /-- The text is no configuration. -/
  | malformed
  /-- A configured template directory is no directory. -/
  | noTemplateDirectory (path : String)
  deriving DecidableEq, Repr

def ConfigError.message : ConfigError → String
  | .unreadable path reason => "failed to read config " ++ path ++ ": " ++ reason
  | .malformed => "invalid config"
  | .noTemplateDirectory path => "template directory not found: " ++ path

end BracketMark
