import BracketMark.Dict
import BracketMark.Error
import BracketMark.Template.Language

/-!
# Compiled templates

Templates are asked for by name.  The first time, the source is fetched from a template
source and compiled; a template that could be compiled is kept under its name, so that the
source is not asked for it again.  Nothing is kept of a failure.  This is so for the template
that is applied, and for those that it asks for while it is.

What a source answers may depend on a state of the world it lives in, and asking may leave
its mark there.
-/

namespace BracketMark
namespace Template

open Html

/-- Finds the source of a template by name, in a world with states `σ`. -/
abbrev Source (σ : Type) := String → σ → Except LookupError (Option String) × σ

abbrev Store (lang : Language) := Dict lang.Compiled

namespace Store

variable {lang : Language} {σ : Type}

/-- The template of a name, the templates then kept, and the world then. -/
def fetch (source : Source σ) (name : String) (store : Store lang) (world : σ) :
    Except RenderError lang.Compiled × Store lang × σ :=
  match store.get? name with
  | some template => (.ok template, store, world)
  | none =>
    let (answer, world) := source name world
    match lang.ofAnswer name answer with
    | .ok template => (.ok template, store.insert name template, world)
    | .error e => (.error e, store, world)

/-- The result of an application, each template that it asks for fetched at that moment. -/
def follow (source : Source σ) :
    Application lang.Compiled → Store lang → σ → Except RenderError Safe × Store lang × σ
  | .done result, store, world => (result, store, world)
  | .ask name next, store, world =>
    let (found, store, world) := store.fetch source name world
    follow source (next found) store world

theorem follow_ask {source : Source σ} {name : String}
    {next : Except RenderError lang.Compiled → Application lang.Compiled}
    {store between : Store lang} {world world' : σ} {found : Except RenderError lang.Compiled}
    (h : store.fetch source name world = (found, between, world')) :
    follow source (.ask name next) store world = follow source (next found) between world' := by
  rw [follow, h]

/-- A template that is found is applied. -/
theorem follow_applyNamed {source : Source σ} {name : String} {template : lang.Compiled}
    {store between : Store lang} {world world' : σ}
    (h : store.fetch source name world = (.ok template, between, world')) (frame : Frame) :
    follow source (lang.applyNamed name frame) store world =
      follow source (lang.apply template frame) between world' :=
  follow_ask h

end Store
end Template
end BracketMark
