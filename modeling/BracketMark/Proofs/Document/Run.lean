import BracketMark.Document.Render
import BracketMark.Proofs.Effects

/-!
# Running a rendering

Rendering is written with effects: a stage goes in, and a result and a stage come out.  This
module says once what each step does to the stage, so that no later proof opens the monad.

A tag's template sees one frame of the tag's own, laid over what showed outside.  The frame is
made of pure functions here: the contents, the bindings of the arguments (`argumentFrame`), and
the edits of the hook (`playScript`).  `run_render_tag` puts them together.
-/

namespace BracketMark
namespace Document

open Html Tag Template

variable {lang : Language} {σ α β : Type}

/-! ## Frames -/

theorem run_onContext_bind (f : Context → Context) (next : Unit → RenderM lang σ β)
    (stage : Stage lang σ) :
    (onContext f >>= next).run stage = (next ()).run { stage with context := f stage.context } :=
  rfl

/-- The stage inside a frame that has just been opened. -/
def Stage.inside (stage : Stage lang σ) : Stage lang σ :=
  { stage with context := stage.context.push }

theorem run_inFrame {action : RenderM lang σ α} {stage stage' : Stage lang σ}
    {result : Except RenderError α} (h : action.run stage.inside = (result, stage')) :
    (inFrame action).run stage = (result, { stage' with context := stage'.context.pop }) := by
  have hrun : (inFrame action).run stage = ((action.run stage.inside).1,
      { (action.run stage.inside).2 with context := (action.run stage.inside).2.context.pop }) :=
    rfl
  rw [hrun, h]

/-! ## Arguments -/

/-- What an argument binds a name to. -/
def argumentValue? (args : Arguments) (key : String) : Option Value :=
  match args with
  | .none => none
  | .positional arg => if key = "arg" then some (.text arg) else none
  | .keywords kwargs =>
    if reservedKeys.contains key then none else (kwargs.get? key).map .text

/-- A frame with one more keyword argument, unless rendering keeps its name for itself. -/
def bindKeyword (frame : Frame) (pair : String × String) : Frame :=
  if reservedKeys.contains pair.1 then frame else frame.insert pair.1 (.text pair.2)

/-- A frame with the bindings of a tag's arguments. -/
def argumentFrame (args : Arguments) (frame : Frame) : Frame :=
  match args with
  | .none => frame
  | .positional arg => frame.insert "arg" (.text arg)
  | .keywords kwargs => kwargs.toList.foldl bindKeyword frame

/-- Keyword arguments are bound in the innermost frame only. -/
theorem foldl_bindKeyword (pairs : List (String × String)) (context : Context) :
    pairs.foldl
      (fun context p =>
        if reservedKeys.contains p.1 then context else context.insert p.1 (.text p.2))
      context = ⟨pairs.foldl bindKeyword context.top, context.below⟩ := by
  induction pairs generalizing context with
  | nil => rfl
  | cons p pairs ih =>
    rw [List.foldl_cons, List.foldl_cons, ih, bindKeyword]
    split
    · rfl
    · rfl

theorem bindArguments_eq (args : Arguments) (context : Context) :
    bindArguments args context = ⟨argumentFrame args context.top, context.below⟩ := by
  cases args with
  | none => rfl
  | positional arg => rfl
  | keywords kwargs => exact foldl_bindKeyword kwargs.toList context

theorem get?_bindKeyword (frame : Frame) (pair : String × String) (key : String) :
    (bindKeyword frame pair).get? key =
      if reservedKeys.contains key = false ∧ key = pair.1 then some (.text pair.2)
      else frame.get? key := by
  unfold bindKeyword
  cases hreserved : reservedKeys.contains pair.1 with
  | true =>
    have hkey : ¬(reservedKeys.contains key = false ∧ key = pair.1) := by
      rintro ⟨hfree, rfl⟩
      rw [hreserved] at hfree
      cases hfree
    rw [if_neg hkey]
    rfl
  | false =>
    rw [if_neg Bool.false_ne_true, Dict.get?_insert]
    by_cases hkey : key = pair.1
    · rw [if_pos hkey, if_pos ⟨hkey ▸ hreserved, hkey⟩]
    · rw [if_neg hkey, if_neg fun h => hkey h.2]

theorem get?_foldl_bindKeyword (pairs : List (String × String)) (frame : Frame) (key : String) :
    (pairs.foldl bindKeyword frame).get? key =
      (if reservedKeys.contains key then none else (pairs.reverse.lookup key).map .text).or
        (frame.get? key) := by
  induction pairs generalizing frame with
  | nil =>
    split
    · rfl
    · rfl
  | cons p pairs ih =>
    obtain ⟨k, v⟩ := p
    rw [List.foldl_cons, ih, get?_bindKeyword, List.reverse_cons, List.lookup_append]
    cases hreserved : reservedKeys.contains key with
    | true => simp
    | false =>
      cases hlookup : pairs.reverse.lookup key with
      | some value => simp
      | none =>
        by_cases hkey : key = k
        · simp [hkey]
        · simp [hkey, List.lookup_cons, beq_eq_false_iff_ne.2 hkey]

theorem get?_argumentFrame (args : Arguments) (frame : Frame) (key : String) :
    (argumentFrame args frame).get? key = (argumentValue? args key).or (frame.get? key) := by
  cases args with
  | none => rfl
  | positional arg =>
    rw [argumentFrame, argumentValue?, Dict.get?_insert]
    split
    · rfl
    · rfl
  | keywords kwargs =>
    rw [argumentFrame, get?_foldl_bindKeyword, Dict.toList, Dict.lookup_reverse kwargs.sorted]
    rfl

/-! ## Hooks -/

/-- The frame that a script leaves, between the frames around it, or the error with which it
    refuses.  Its notes change no frame. -/
def playScript (below : List Frame) : Script → Frame → Except RenderError Frame
  | .done, frame => .ok frame
  | .refuse error, _ => .error error
  | .bind key value next, frame => playScript below next (frame.insert key value)
  | .unbind key next, frame => playScript below (next (frame.get? key)) (frame.erase key)
  | .look key next, frame => playScript below (next (Context.get? ⟨frame, below⟩ key)) frame
  | .flatten next, frame => playScript below (next (Context.flatten ⟨frame, below⟩)) frame
  | .depth next, frame => playScript below (next (Context.depth ⟨frame, below⟩)) frame
  | .note _ next, frame => playScript below next frame

/-- A script succeeds or refuses as it does on the frame, and if it succeeds, this frame is what it
    leaves. -/
theorem run_runScript (script : Script) (stage : Stage lang σ) :
    ∃ context notes, (runScript script).run stage =
        ((playScript stage.context.below script stage.context.top).map fun _ => (),
          ⟨context, stage.store, stage.world, notes⟩) ∧
      ∀ frame, playScript stage.context.below script stage.context.top = .ok frame →
        context = ⟨frame, stage.context.below⟩ := by
  induction script generalizing stage with
  | done =>
    refine ⟨stage.context, stage.notes, rfl, fun frame h => ?_⟩
    cases h
    rfl
  | refuse error => exact ⟨stage.context, stage.notes, rfl, fun frame h => nomatch h⟩
  | bind key value next ih => exact ih { stage with context := stage.context.insert key value }
  | unbind key next ih => exact ih _ { stage with context := (stage.context.remove key).2 }
  | look key next ih => exact ih _ stage
  | flatten next ih => exact ih _ stage
  | depth next ih => exact ih _ stage
  | note note next ih => exact ih { stage with notes := note :: stage.notes }

/-! ## Templates and tags -/

theorem run_onTemplates {action : Store lang → σ → Except RenderError α × Store lang × σ}
    {stage : Stage lang σ} {result : Except RenderError α} {store : Store lang} {world : σ}
    (h : action stage.store stage.world = (result, store, world)) :
    (onTemplates action).run stage = (result, { stage with store := store, world := world }) := by
  have hrun : (onTemplates action).run stage = ((action stage.store stage.world).1,
      { stage with
        store := (action stage.store stage.world).2.1
        world := (action stage.store stage.world).2.2 }) := rfl
  rw [hrun, h]

/-- A template is applied to all that shows. -/
theorem run_renderTemplate {source : Source σ} {name : String} {stage : Stage lang σ}
    {result : Except RenderError Safe} {store : Store lang} {world : σ}
    (hfollow : Store.follow source (lang.applyNamed name stage.context.flatten) stage.store
      stage.world = (result, store, world)) :
    (renderTemplate source name).run stage =
      (result, { stage with store := store, world := world }) := by
  have hget : (get : RenderM lang σ (Stage lang σ)).run stage = (.ok stage, stage) := rfl
  rw [renderTemplate, run_bind_ok hget, run_onTemplates hfollow]

/-- The frame that a tag's hook leaves. -/
def playHook (definition : Definition) (tag : Occurrence) (below : List Frame) (frame : Frame) :
    Except RenderError Frame :=
  match definition.hook? with
  | some hook => playScript below (hook tag) frame
  | none => .ok frame

/-- The frame of a tag before its hook. -/
def tagFrame (args : Arguments) (inner : Safe) : Frame :=
  argumentFrame args (Dict.insert .empty "contents" (.safe inner))

theorem text_occurrence (definition : Definition) (args : Arguments) (contents : Tree) :
    (occurrence definition args contents).text = contents.plainText :=
  contents.plainText_view

/-- The hook of a tag, if it has one. -/
def runHook (definition : Definition) (tag : Occurrence) : RenderM lang σ Unit :=
  match definition.hook? with
  | some hook => runScript (hook tag)
  | none => pure ()

/-- What the hook of a tag does.  Without a hook there is nothing to do. -/
def hookScript (definition : Definition) (tag : Occurrence) : Script :=
  match definition.hook? with
  | some hook => hook tag
  | none => .done

theorem playHook_eq (definition : Definition) (tag : Occurrence) (below : List Frame)
    (frame : Frame) :
    playHook definition tag below frame = playScript below (hookScript definition tag) frame := by
  rw [playHook, hookScript]
  cases definition.hook? with
  | none => rfl
  | some hook => rfl

theorem runHook_eq (definition : Definition) (tag : Occurrence) :
    (runHook definition tag : RenderM lang σ Unit) = runScript (hookScript definition tag) := by
  rw [runHook, hookScript]
  cases definition.hook? with
  | none => rfl
  | some hook => rfl

theorem run_runHook (definition : Definition) (tag : Occurrence) (stage : Stage lang σ) :
    ∃ context notes, (runHook definition tag).run stage =
        ((playHook definition tag stage.context.below stage.context.top).map fun _ => (),
          ⟨context, stage.store, stage.world, notes⟩) ∧
      ∀ frame, playHook definition tag stage.context.below stage.context.top = .ok frame →
        context = ⟨frame, stage.context.below⟩ := by
  rw [runHook_eq, playHook_eq]
  exact run_runScript (hookScript definition tag) stage

/-- What is done for a tag inside its frame, up to its template. -/
def prepareTag (source : Source σ) (definition : Definition) (args : Arguments)
    (contents : Tree) : RenderM lang σ Unit := do
  let html ← contents.render source
  onContext (·.insert "contents" (.safe html))
  onContext (bindArguments args)
  runHook definition (occurrence definition args contents)

theorem render_tag (source : Source σ) (definition : Definition) (args : Arguments)
    (contents : Tree) :
    ((Tree.tag definition args contents).render source : RenderM lang σ Safe) =
      inFrame (prepareTag source definition args contents >>= fun _ =>
        renderTemplate source definition.template) := by
  rw [Tree.render, prepareTag]
  simp only [bind_assoc, runHook]
  cases definition.hook? with
  | none => rfl
  | some hook => rfl

section

variable {source : Source σ} {definition : Definition} {args : Arguments} {contents : Tree}
  {stage stage₁ : Stage lang σ} {inner : Safe}

/-- A tag's hook finds the contents and the arguments bound. -/
theorem run_prepareTag_eq
    (hcontents : (contents.render source).run stage.inside = (.ok inner, stage₁))
    (hcontext : stage₁.context = stage.inside.context) :
    (prepareTag source definition args contents).run stage.inside =
      (runHook definition (occurrence definition args contents)).run
        { stage₁ with context := ⟨tagFrame args inner, stage.inside.context.below⟩ } := by
  have hbound : bindArguments args (stage₁.context.insert "contents" (.safe inner)) =
      ⟨tagFrame args inner, stage.inside.context.below⟩ := by
    rw [bindArguments_eq, hcontext]
    rfl
  rw [prepareTag, run_bind_ok hcontents, run_onContext_bind, run_onContext_bind, hbound]

theorem run_prepareTag {frame : Frame}
    (hcontents : (contents.render source).run stage.inside = (.ok inner, stage₁))
    (hcontext : stage₁.context = stage.inside.context)
    (hhook : playHook definition (occurrence definition args contents)
      stage.inside.context.below (tagFrame args inner) = .ok frame) :
    ∃ notes, (prepareTag source definition args contents).run stage.inside =
      (.ok (), ⟨⟨frame, stage.inside.context.below⟩, stage₁.store, stage₁.world, notes⟩) := by
  obtain ⟨context, notes, hrun, hleft⟩ := run_runHook definition
    (occurrence definition args contents)
    { stage₁ with context := ⟨tagFrame args inner, stage.inside.context.below⟩ }
  obtain rfl := hleft frame hhook
  rw [hhook] at hrun
  exact ⟨notes, (run_prepareTag_eq hcontents hcontext).trans hrun⟩

theorem run_prepareTag_error {e : RenderError}
    (hcontents : (contents.render source).run stage.inside = (.ok inner, stage₁))
    (hcontext : stage₁.context = stage.inside.context)
    (hhook : playHook definition (occurrence definition args contents)
      stage.inside.context.below (tagFrame args inner) = .error e) :
    ∃ refused, (prepareTag source definition args contents).run stage.inside =
      (.error e, refused) := by
  obtain ⟨context, notes, hrun, -⟩ := run_runHook definition
    (occurrence definition args contents)
    { stage₁ with context := ⟨tagFrame args inner, stage.inside.context.below⟩ }
  rw [hhook] at hrun
  exact ⟨_, (run_prepareTag_eq hcontents hcontext).trans hrun⟩

/-- **A tag renders as its template** against its own frame, laid over what showed outside; the
    context is afterwards what it was. -/
theorem run_render_tag {html : Safe} {frame : Frame} {store : Store lang} {world : σ}
    (hcontents : (contents.render source).run stage.inside = (.ok inner, stage₁))
    (hcontext : stage₁.context = stage.inside.context)
    (hhook : playHook definition (occurrence definition args contents)
      stage.inside.context.below (tagFrame args inner) = .ok frame)
    (hfollow : Store.follow source
      (lang.applyNamed definition.template (stage.context.flatten.overlay frame)) stage₁.store
      stage₁.world = (.ok html, store, world)) :
    ∃ notes, ((Tree.tag definition args contents).render source).run stage =
      (.ok html, ⟨stage.context, store, world, notes⟩) := by
  obtain ⟨notes, hprepare⟩ := run_prepareTag hcontents hcontext hhook
  -- the stage when the template is done and the frame still open
  let rendered : Stage lang σ := ⟨⟨frame, stage.inside.context.below⟩, store, world, notes⟩
  have hrender : (renderTemplate source definition.template).run
      ⟨⟨frame, stage.inside.context.below⟩, stage₁.store, stage₁.world, notes⟩ =
        (.ok html, rendered) :=
    run_renderTemplate hfollow
  refine ⟨notes, ?_⟩
  rw [render_tag, run_inFrame ((run_bind_ok hprepare).trans hrender)]
  rfl

end

/-! ## Nodes reached -/

/-- `node.PartOf tree`: the node is the tree itself or stands somewhere inside it. -/
inductive Tree.PartOf : Tree → Tree → Prop
  | refl {tree : Tree} : PartOf tree tree
  | child {node child : Tree} {children : List Tree} (hmem : child ∈ children)
      (hchild : PartOf node child) : PartOf node (.block children)
  | contents {node : Tree} {definition : Definition} {args : Arguments} {contents : Tree}
      (hcontents : PartOf node contents) : PartOf node (.tag definition args contents)

/-- `Reaches source tree stage node stage'`: rendering the tree from the stage comes to render
    the node, which is part of the tree, from `stage'`. -/
inductive Reaches (source : Source σ) : Tree → Stage lang σ → Tree → Stage lang σ → Prop
  | here {tree : Tree} {stage : Stage lang σ} : Reaches source tree stage tree stage
  | child {before after : List Tree} {child node : Tree} {htmls : List Safe}
      {stage between stage' : Stage lang σ}
      (hbefore : (renderAll source before).run stage = (.ok htmls, between))
      (hchild : Reaches source child between node stage') :
      Reaches source (.block (before ++ child :: after)) stage node stage'
  | contents {definition : Definition} {args : Arguments} {contents node : Tree}
      {stage stage' : Stage lang σ} (hcontents : Reaches source contents stage.inside node stage') :
      Reaches source (.tag definition args contents) stage node stage'

end Document
end BracketMark
