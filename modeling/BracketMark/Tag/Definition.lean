import BracketMark.Error
import BracketMark.Text.Blank
import BracketMark.Tag.Hook

/-!
# Tag definitions and libraries

A definition describes one tag: its name, the arguments it accepts, the template that
renders it, how it is written, and its hook.  Names do not depend on case and are kept in
ASCII lower case, as the parser gives them.  Definitions come in libraries.
-/

namespace BracketMark
namespace Tag

open Text

/-- One tag. -/
structure Definition where
  name : String
  contract : Contract
  /-- The template that renders the tag, when it is not the one named after it. -/
  template? : Option String
  /-- Lines that show how the tag is written, when not the generated one. -/
  usage? : Option (List String)
  hook? : Option Hook
  /-- The name is not blank. -/
  named : blank name = false
  /-- The name is in lower case. -/
  folded : foldCase name = name

namespace Definition

/-- The definition of a tag with nothing special about it; a blank name names no tag. -/
def new (name : String) (contract : Contract) : Except BuildError Definition :=
  if h : blank name = false then
    .ok ⟨foldCase name, contract, none, none, none,
      (blank_foldCase name).trans h, foldCase_foldCase name⟩
  else .error .unnamedTag

def withTemplate (d : Definition) (template : String) : Definition :=
  { d with template? := some template }

def withUsage (d : Definition) (lines : List String) : Definition :=
  { d with usage? := some lines }

def withHook (d : Definition) (hook : Hook) : Definition :=
  { d with hook? := some hook }

def takesArg (d : Definition) : Bool := d.contract == .positional

def takesKwargs (d : Definition) : Bool := d.contract == .keywords

/-- The name of the template that renders the tag. -/
def template (d : Definition) : String :=
  d.template?.getD ("tags/" ++ d.name ++ ".html")

/-- The generated line that shows how a tag is written. -/
def exampleLine (name : String) : Contract → String
  | .none => "[" ++ name ++ "]Example Text[/" ++ name ++ "]"
  | .positional => "[" ++ name ++ "=value]Example Text[/" ++ name ++ "]"
  | .keywords => "[" ++ name ++ " key=value]Example Text[/" ++ name ++ "]"

/-- Lines that show how the tag is written. -/
def usage (d : Definition) : List String :=
  d.usage?.getD [exampleLine d.name d.contract]

/-- What hooks see of the definition. -/
def profile (d : Definition) : Profile :=
  ⟨d.name, d.contract, d.template, d.usage, d.hook?.isSome⟩

/-- The contract's short name. -/
def contractName : Contract → String
  | .none => "None"
  | .positional => "Positional"
  | .keywords => "Keywords"

/-- The definition on one line, for diagnosis. -/
def describe (d : Definition) : String :=
  "TagDefinition \x7b name: " ++ quoted d.name ++ ", contract: " ++ contractName d.contract ++
    ", template: " ++ quoted d.template ++ ", hook: " ++
    (if d.hook?.isSome then "true" else "false") ++ " \x7d"

end Definition

/-- A named group of definitions, in the order they are exported. -/
structure Library where
  name : String
  exports : List Definition

end Tag
end BracketMark
