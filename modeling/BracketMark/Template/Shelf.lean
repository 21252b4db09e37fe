import BracketMark.Dict
import BracketMark.Error
import BracketMark.File.Path
import BracketMark.File.Files
import BracketMark.Template.Builtin

/-!
# Template shelves

A shelf finds the source of a template by its name, in three tiers: templates given as
text, then template directories in the order they were added, then built-in templates.
Directories are read when a name is asked for, so what they hold may change in between.  A
name that is not a plain path could lead out of a directory and is refused, unless the
first tier has it.
-/

namespace BracketMark
namespace Template

open File

/-- Where templates are looked for. -/
structure Shelf where
  inline : Dict String
  dirs : List String
  builtin : Dict String

namespace Shelf

def empty : Shelf := ⟨.empty, [], .empty⟩

/-- A shelf with the templates of the built-in tags. -/
def standard : Shelf := ⟨.empty, [], .ofList builtinSources⟩

/-- A template given as text. -/
def addInline (shelf : Shelf) (name source : String) : Shelf :=
  { shelf with inline := shelf.inline.insert name source }

/-- A template of the last tier. -/
def addBuiltin (shelf : Shelf) (name source : String) : Shelf :=
  { shelf with builtin := shelf.builtin.insert name source }

/-- One more template directory, which has to be a directory now. -/
def addDirectory (shelf : Shelf) (files : Files) (dir : String) : Except LookupError Shelf :=
  if files.isDirectory dir then .ok { shelf with dirs := shelf.dirs ++ [dir] }
  else .error (.noDirectory dir)

/-- The file of a template in a directory. -/
def filePath (dir name : String) : String :=
  String.ofList (join dir.toList name.toList)

/-- The source in the first of the directories that has a file for the name. -/
def readFrom (files : Files) (name : String) : List String → Except LookupError (Option String)
  | [] => .ok none
  | dir :: dirs =>
    if files.isFile (filePath dir name) then
      match files.readText (filePath dir name) with
      | .ok source => .ok (some source)
      | .error fault => .error (.unreadable (filePath dir name) fault.message)
    else readFrom files name dirs

/-- The source of the template of a name, if the shelf has one. -/
def load (shelf : Shelf) (files : Files) (name : String) : Except LookupError (Option String) :=
  match shelf.inline.get? name with
  | some source => .ok (some source)
  | none =>
    -- the name is judged before any directory is asked, and also when there is none
    if isPlain name.toList then
      match readFrom files name shelf.dirs with
      | .ok none => .ok (shelf.builtin.get? name)
      | found => found
    else .error (.badName name)

end Shelf
end Template
end BracketMark
