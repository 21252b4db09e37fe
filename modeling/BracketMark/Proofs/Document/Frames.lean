import BracketMark.Proofs.Document.Run

/-!
# What rendering leaves behind

A tag opens a frame, and much may fail while it is open: its contents, its hook, its template.
This module says that none of it shows afterwards.  Steps inside a frame change the innermost
frame only, so closing it gives back the frames that were there before, whatever came between
and however it ended.  Being true of every tag, this is true of every document.

A step *keeps* a view of the stage if the view is the same after it, also when it fails.  A
sequence keeps what its parts keep (`Keeps.bind`).  Which views a document keeps is settled once,
by what the single steps do to them (`Restored`, `Restored.render`); the context is one of them
(`restored_context`).
-/

namespace BracketMark
namespace Document

open Html Tag Template

variable {lang : Language} {σ α β γ δ : Type}

/-- A step that leaves a view of the stage as it is, also when it fails. -/
def Keeps (view : Stage lang σ → γ) (action : RenderM lang σ α) : Prop :=
  ∀ stage, view (action.run stage).2 = view stage

/-! ## Steps -/

theorem Keeps.bind {view : Stage lang σ → γ} {action : RenderM lang σ α}
    {next : α → RenderM lang σ β} (h : Keeps view action) (hnext : ∀ a, Keeps view (next a)) :
    Keeps view (action >>= next) := by
  intro stage
  have hfirst := h stage
  match hrun : action.run stage with
  | (.ok a, between) =>
    rw [hrun] at hfirst
    rw [run_bind_ok hrun]
    exact (hnext a between).trans hfirst
  | (.error e, between) =>
    rw [hrun] at hfirst
    rw [run_bind_error hrun]
    exact hfirst

theorem keeps_pure (view : Stage lang σ → γ) (a : α) : Keeps view (pure a : RenderM lang σ α) :=
  fun _ => rfl

theorem keeps_throw (view : Stage lang σ → γ) (e : RenderError) :
    Keeps view (throw e : RenderM lang σ α) :=
  fun _ => rfl

theorem keeps_get (view : Stage lang σ → γ) : Keeps view (get : RenderM lang σ (Stage lang σ)) :=
  fun _ => rfl

/-! ## Views that a document keeps -/

/-- A view of the stage that closing a frame restores, if the steps inside the frame keep another
    view; and they do, changing the innermost frame and the notes only. -/
structure Restored (source : Source σ) (outer : Stage lang σ → γ) (inner : Stage lang σ → δ) :
    Prop where
  inFrame {α : Type} {action : RenderM lang σ α} : Keeps inner action → Keeps outer (inFrame action)
  inner_of_outer {α : Type} {action : RenderM lang σ α} : Keeps outer action → Keeps inner action
  top (stage : Stage lang σ) (frame : Frame) :
    inner { stage with context := ⟨frame, stage.context.below⟩ } = inner stage
  notes (stage : Stage lang σ) (notes : List Note) :
    inner { stage with notes := notes } = inner stage
  fetch (name : String) : Keeps outer (fetchTemplate source name)

namespace Restored

variable {source : Source σ} {outer : Stage lang σ → γ} {inner : Stage lang σ → δ}

/-- A hook binds and unbinds in the innermost frame, and may refuse at any point. -/
theorem runScript (h : Restored source outer inner) (script : Script) :
    Keeps inner (runScript script : RenderM lang σ Unit) := by
  induction script with
  | done => exact keeps_pure inner ()
  | refuse error => exact keeps_throw inner error
  | bind key value next ih =>
    have hbind : Keeps inner (onContext (·.insert key value)) :=
      fun stage => h.top stage (stage.context.top.insert key value)
    exact hbind.bind fun _ => ih
  | unbind key next ih =>
    have hunbind : Keeps inner (unbind key) :=
      fun stage => h.top stage (stage.context.top.erase key)
    exact hunbind.bind ih
  | look key next ih => exact (keeps_get inner).bind fun stage => ih (stage.context.get? key)
  | flatten next ih => exact (keeps_get inner).bind fun stage => ih stage.context.flatten
  | depth next ih => exact (keeps_get inner).bind fun stage => ih stage.context.depth
  | note note next ih =>
    have hnote : Keeps inner (modify fun stage : Stage lang σ =>
        { stage with notes := note :: stage.notes } : RenderM lang σ Unit) :=
      fun stage => h.notes stage (note :: stage.notes)
    exact hnote.bind fun _ => ih

theorem runHook (h : Restored source outer inner) (definition : Definition) (tag : Occurrence) :
    Keeps inner (runHook definition tag : RenderM lang σ Unit) := by
  rw [runHook_eq]
  exact h.runScript (hookScript definition tag)

/-- An application changes nothing but what its fetchings change. -/
theorem follow (h : Restored source outer inner) (app : Application lang.Compiled) :
    Keeps outer (onTemplates (Store.follow source app)) := by
  induction app with
  | done result => exact fun stage => rfl
  | ask name next ih =>
    intro stage
    match hfetch : stage.store.fetch source name stage.world with
    | (found, store, world) =>
      have hfetched := h.fetch name stage
      rw [fetchTemplate, run_onTemplates hfetch] at hfetched
      have hask : (onTemplates (Store.follow source (.ask name next))).run stage =
          (onTemplates (Store.follow source (next found))).run
            { stage with store := store, world := world } := by
        rw [run_onTemplates (Store.follow_ask hfetch), run_onTemplates rfl]
      rw [hask]
      exact (ih found _).trans hfetched

theorem renderTemplate (h : Restored source outer inner) (name : String) :
    Keeps outer (renderTemplate source name : RenderM lang σ Safe) :=
  (keeps_get outer).bind fun stage => h.follow (lang.applyNamed name stage.context.flatten)

theorem prepareTag (h : Restored source outer inner) {contents : Tree}
    (hcontents : Keeps outer (contents.render source)) (definition : Definition)
    (args : Arguments) : Keeps inner (prepareTag source definition args contents) := by
  have hinsert (html : Safe) : Keeps inner (onContext (·.insert "contents" (.safe html))) :=
    fun stage => h.top stage (stage.context.top.insert "contents" (.safe html))
  have harguments : Keeps inner (onContext (bindArguments args)) := by
    intro stage
    show inner { stage with context := bindArguments args stage.context } = inner stage
    rw [bindArguments_eq, h.top]
  exact (h.inner_of_outer hcontents).bind fun html => (hinsert html).bind fun _ =>
    harguments.bind fun _ => h.runHook definition _

mutual

/-- **A document keeps what closing a frame restores.** -/
theorem render (h : Restored source outer inner) (tree : Tree) :
    Keeps outer (tree.render source) := by
  match tree with
  | .literal text =>
    rw [Tree.render]
    exact keeps_pure outer (Html.literal text)
  | .block children =>
    rw [Tree.render]
    exact (h.renderAll children).bind fun htmls => keeps_pure outer (Safe.join htmls)
  | .tag definition args contents =>
    rw [render_tag]
    refine h.inFrame ((h.prepareTag (h.render contents) definition args).bind fun _ => ?_)
    exact h.inner_of_outer (h.renderTemplate definition.template)

theorem renderAll (h : Restored source outer inner) (trees : List Tree) :
    Keeps outer (renderAll source trees) := by
  match trees with
  | [] =>
    rw [Document.renderAll]
    exact keeps_pure outer []
  | tree :: trees =>
    rw [Document.renderAll]
    refine (h.render tree).bind fun html => (h.renderAll trees).bind fun rest => ?_
    exact keeps_pure outer (html :: rest)

end

end Restored

/-! ## The context -/

/-- Closing a frame gives back what was there before it, if the frames below were left alone. -/
theorem keeps_inFrame {action : RenderM lang σ α} (h : Keeps (·.context.below) action) :
    Keeps Stage.context (inFrame action) := by
  intro stage
  have hbelow := h stage.inside
  match hrun : action.run stage.inside with
  | (result, stage') =>
    rw [hrun] at hbelow
    have hframes : stage'.context.below = stage.context.top :: stage.context.below := hbelow
    rw [run_inFrame hrun]
    show stage'.context.pop = stage.context
    rw [Context.pop, hframes]

theorem restored_context (source : Source σ) :
    Restored source (Stage.context : Stage lang σ → Context) (·.context.below) where
  inFrame := keeps_inFrame
  inner_of_outer h := fun stage => congrArg Context.below (h stage)
  top _ _ := rfl
  notes _ _ := rfl
  fetch _ := fun _ => rfl

theorem context_of_run_render {source : Source σ} {tree : Tree} {stage after : Stage lang σ}
    {result : Except RenderError Safe} (h : (tree.render source).run stage = (result, after)) :
    after.context = stage.context := by
  have hrestored := (restored_context source).render tree stage
  rwa [h] at hrestored

/-- **Rendering restores the context**: every frame with every binding, whether it gives HTML or
    fails, and wherever it fails. -/
theorem context_run_render (source : Source σ) (tree : Tree) (stage : Stage lang σ) :
    ((tree.render source).run stage).2.context = stage.context :=
  (restored_context source).render tree stage

end Document
end BracketMark
