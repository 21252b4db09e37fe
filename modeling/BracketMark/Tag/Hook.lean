import BracketMark.Error
import BracketMark.Tag.Arguments
import BracketMark.Context

/-!
# Hooks

A tag may come with a hook, which runs inside the tag's own frame after its contents and
arguments are bound and before its template is used.  What a hook may do is spelled out as
a script: it reads names and all that shows, makes and removes bindings in the innermost
frame, keeps notes, and may refuse with an error.  It has no other way to reach the context,
so that it cannot open or close frames.

A hook is part of a tag's definition and is shown the tag with its contents.  What it sees of
the definitions there are their profiles, which tell whether there is a hook but not which.
-/

namespace BracketMark
namespace Tag

open Template

/-- A definition as a hook sees it. -/
structure Profile where
  name : String
  contract : Contract
  template : String
  usage : List String
  hooked : Bool

/-- A document as a hook sees it. -/
inductive View where
  | literal (text : String)
  | block (children : List View)
  | tag (profile : Profile) (args : Arguments) (contents : View)

mutual

/-- The literal text of a document, without markup. -/
def View.plainText : View → String
  | .literal text => text
  | .block children => viewTexts children
  | .tag _ _ contents => contents.plainText

def viewTexts : List View → String
  | [] => ""
  | view :: views => view.plainText ++ viewTexts views

end

/-- What a hook is told about the tag it runs for. -/
structure Occurrence where
  profile : Profile
  args : Arguments
  contents : View

namespace Occurrence

def name (tag : Occurrence) : String := tag.profile.name

/-- The literal text inside the tag, without markup. -/
def text (tag : Occurrence) : String := tag.contents.plainText

end Occurrence

/-- What a hook has written down about a name. -/
structure Note where
  tag : String
  arg : Option String
  depth : Nat
  /-- What the name stood for, if it was bound. -/
  value : Option Value

/-- What a hook does, one action after another. -/
inductive Script where
  | done
  /-- Refuse to render the tag; this is the error of the rendering. -/
  | refuse (error : RenderError)
  /-- Bind a name in the innermost frame. -/
  | bind (key : String) (value : Value) (next : Script)
  /-- Remove a name from the innermost frame, and go on with what it was bound to there. -/
  | unbind (key : String) (next : Option Value → Script)
  /-- Go on with what a name stands for. -/
  | look (key : String) (next : Option Value → Script)
  /-- Go on with all that shows, as one frame. -/
  | flatten (next : Frame → Script)
  /-- Go on with the number of frames. -/
  | depth (next : Nat → Script)
  /-- Write something down. -/
  | note (note : Note) (next : Script)

/-- The script a hook follows at an occurrence of its tag. -/
abbrev Hook := Occurrence → Script

end Tag
end BracketMark
