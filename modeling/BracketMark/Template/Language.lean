import BracketMark.Template.Eval
import BracketMark.Template.Reader

/-!
# Template languages

A template source answers with text; what the text means is up to a language.  A language says
which texts are templates and what it comes to when a template is applied to a frame.  A template
that includes others asks for them by name while it is applied, and goes on with what is found or
with the error that it could not be had.

Finding, keeping and rendering templates is the same for every language.  The one that the program
reads is `Language.standard`.
-/

namespace BracketMark
namespace Template

open Html

/-- What applying a template comes to, with templates of the type `T`. -/
inductive Application (T : Type) where
  | done (result : Except RenderError Safe)
  /-- Ask for a template by name, and go on with what is found. -/
  | ask (name : String) (next : Except RenderError T → Application T)

structure Language where
  /-- A template that has been compiled. -/
  Compiled : Type
  /-- The template of a text that a source has under a name. -/
  compile (name text : String) : Except RenderError Compiled
  apply (template : Compiled) (frame : Frame) : Application Compiled

namespace Language

/-- The template of a name applied to a frame. -/
def applyNamed (lang : Language) (name : String) (frame : Frame) : Application lang.Compiled :=
  .ask name fun
    | .ok template => lang.apply template frame
    | .error e => .done (.error e)

/-- The template that a source's answer gives for a name. -/
def ofAnswer (lang : Language) (name : String) :
    Except LookupError (Option String) → Except RenderError lang.Compiled
  | .error _ => .error .sourceFailed
  | .ok none => .error (.missing name)
  | .ok (some text) => lang.compile name text

/-- The language of holes, filters and conditions.  Its templates ask for no others. -/
abbrev standard : Language where
  Compiled := Template.Compiled
  compile name text :=
    match read name text with
    | some template => .ok template
    | none => .error (.template "malformed template")
  apply template frame := .done (template.eval frame)

theorem ofAnswer_of_read {name text : String} {template : Template.Compiled}
    (h : read name text = some template) :
    standard.ofAnswer name (.ok (some text)) = .ok template := by
  rw [ofAnswer]
  simp only [h]

end Language
end Template
end BracketMark
