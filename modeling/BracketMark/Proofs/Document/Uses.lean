import BracketMark.Proofs.Document.Steps
import BracketMark.Proofs.Template.Asked

/-!
# Uses of templates

Templates are used when trees are rendered, when one is applied on its own, and when it is checked
that there is one.  Whatever the use, it comes to one name after another and fetches the template
of each (`Use.fetchesAll`): so it asks the source for no name that is kept, and for any other name
each time that it comes to it.  What it gives depends on the templates that it comes to, and on
nothing else of the store, the source or the world (`Use.alike`).
-/

namespace BracketMark
namespace Document

open Html Tag Template

variable {lang : Language} {σ τ : Type}

/-- What a stage holds for templates. -/
def Stage.held (stage : Stage lang σ) : Store lang × σ := (stage.store, stage.world)

/-! ## The names that steps come to -/

/-- The names that a step comes to, each as often as it does. -/
def Step.used (source : Source σ) (step : Step) (progress : Progress lang σ) : List String :=
  match step with
  | .template name =>
    namesAsked source (lang.applyNamed name progress.stage.context.flatten) progress.stage.held
  | _ => []

/-- The names that steps come to, up to the first step that fails. -/
def usedAll (source : Source σ) : List Step → Progress lang σ → List String
  | [], _ => []
  | step :: steps, progress =>
    step.used source progress ++ match step.perform source progress with
      | (.ok (), next) => usedAll source steps next
      | (.error _, _) => []

/-- Hooks do the same whatever templates are kept, and in any world. -/
theorem exists_run_runScript (script : Script) (context : Context) (notes : List Note) :
    ∃ result context' notes', ∀ {lang : Language} {σ : Type} (store : Store lang) (world : σ),
      (runScript script).run ⟨context, store, world, notes⟩ =
        (result, ⟨context', store, world, notes'⟩) := by
  induction script generalizing context notes with
  | done => exact ⟨.ok (), context, notes, fun _ _ => rfl⟩
  | refuse error => exact ⟨.error error, context, notes, fun _ _ => rfl⟩
  | bind key value next ih => exact ih (context.insert key value) notes
  | unbind key next ih => exact ih (context.remove key).1 (context.remove key).2 notes
  | look key next ih => exact ih (context.get? key) context notes
  | flatten next ih => exact ih context.flatten context notes
  | depth next ih => exact ih context.depth context notes
  | note note next ih => exact ih context (note :: notes)

theorem exists_run_runHook (definition : Definition) (tag : Occurrence) (context : Context)
    (notes : List Note) :
    ∃ result context' notes', ∀ {lang : Language} {σ : Type} (store : Store lang) (world : σ),
      (runHook definition tag).run ⟨context, store, world, notes⟩ =
        (result, ⟨context', store, world, notes'⟩) := by
  obtain ⟨result, context', notes', hrun⟩ :=
    exists_run_runScript (hookScript definition tag) context notes
  refine ⟨result, context', notes', fun store world => ?_⟩
  rw [runHook_eq]
  exact hrun store world

theorem perform_template {source : Source σ} {name : String} {stage : Stage lang σ}
    {result : Except RenderError Safe} {store : Store lang} {world : σ}
    (hfollow : Store.follow source (lang.applyNamed name stage.context.flatten) stage.store
      stage.world = (result, store, world)) (finished : List Safe) :
    (Step.template name).perform source ⟨stage, finished⟩ =
      match result with
      | .ok html => (.ok (), ⟨{ stage with store := store, world := world }, html :: finished⟩)
      | .error e => (.error e, ⟨{ stage with store := store, world := world }, finished⟩) := by
  cases result with
  | ok html => exact perform_template_ok (run_renderTemplate hfollow) finished
  | error e => exact perform_template_error (run_renderTemplate hfollow) finished

/-! ## The same templates -/

/-- Two renderings that have come to the same, but for what is held. -/
inductive Progress.Alike (R : Store lang × σ → Store lang × τ → Prop) :
    Progress lang σ → Progress lang τ → Prop
  | mk (context : Context) (notes : List Note) (finished : List Safe) {store store' : Store lang}
      {world : σ} {world' : τ} (h : R (store, world) (store', world')) :
      Alike R ⟨⟨context, store, world, notes⟩, finished⟩
        ⟨⟨context, store', world', notes⟩, finished⟩

section

variable {R : Store lang × σ → Store lang × τ → Prop} {source : Source σ} {source' : Source τ}

theorem alike_perform {step : Step} {progress : Progress lang σ} {progress' : Progress lang τ}
    (hnames : ∀ name ∈ step.used source progress, FetchAlike R source source' name)
    (h : progress.Alike R progress') :
    (step.perform source progress).1 = (step.perform source' progress').1 ∧
      (step.perform source progress).2.Alike R (step.perform source' progress').2 := by
  obtain @⟨context, notes, finished, store, store', world, world', h⟩ := h
  cases step with
  | literal text => exact ⟨rfl, .mk _ _ _ h⟩
  | join count => exact ⟨rfl, .mk _ _ _ h⟩
  | enter => exact ⟨rfl, .mk _ _ _ h⟩
  | bind args => exact ⟨rfl, .mk _ _ _ h⟩
  | leave => exact ⟨rfl, .mk _ _ _ h⟩
  | hook definition tag =>
    obtain ⟨result, context', notes', hrun⟩ := exists_run_runHook definition tag context notes
    rw [perform_hook (hrun _ _) finished, perform_hook (hrun _ _) finished]
    exact ⟨rfl, .mk _ _ _ h⟩
  | template name =>
    obtain ⟨result, next, next', hnext, hfollow, hfollow'⟩ := exists_follow hnames h
    rw [perform_template hfollow, perform_template hfollow']
    cases result with
    | ok html => exact ⟨rfl, .mk _ _ _ hnext⟩
    | error e => exact ⟨rfl, .mk _ _ _ hnext⟩

theorem alike_performAll {steps : List Step} {progress : Progress lang σ}
    {progress' : Progress lang τ}
    (hnames : ∀ name ∈ usedAll source steps progress, FetchAlike R source source' name)
    (h : progress.Alike R progress') :
    (performAll source steps progress).1 = (performAll source' steps progress').1 ∧
      (performAll source steps progress).2.Alike R (performAll source' steps progress').2 := by
  induction steps generalizing progress progress' with
  | nil => exact ⟨rfl, h⟩
  | cons step steps ih =>
    rw [usedAll] at hnames
    obtain ⟨hresult, halike⟩ :=
      alike_perform (fun name hmem => hnames name (List.mem_append_left _ hmem)) h
    rcases hstep : step.perform source progress with ⟨result, next⟩
    rcases hstep' : step.perform source' progress' with ⟨result', next'⟩
    rw [hstep, hstep'] at hresult halike
    cases hresult
    cases result with
    | ok _ =>
      rw [hstep] at hnames
      rw [performAll_cons_ok hstep, performAll_cons_ok hstep']
      exact ih (fun name hmem => hnames name (List.mem_append_right _ hmem)) halike
    | error e =>
      rw [performAll_cons_error hstep, performAll_cons_error hstep']
      exact ⟨rfl, halike⟩

end

/-! ## What steps fetch -/

/-- A step fetches the templates that it comes to. -/
theorem fetchesAll_perform (source : Source σ) (step : Step)
    (progress : Progress lang (σ × List Asking)) :
    FetchesAll source (step.used (recorded source) progress) progress.stage.held
      (step.perform (recorded source) progress).2.stage.held := by
  obtain ⟨⟨context, store, world, notes⟩, finished⟩ := progress
  cases step with
  | literal text => exact .nil
  | join count => exact .nil
  | enter => exact .nil
  | bind args => exact .nil
  | leave => exact .nil
  | hook definition tag =>
    obtain ⟨result, context', notes', hrun⟩ := exists_run_runHook definition tag context notes
    rw [perform_hook (hrun store world) finished]
    exact .nil
  | template name =>
    have hfetches := fetchesAll_follow source (lang.applyNamed name context.flatten) (store, world)
    rcases hfollow : Store.follow (recorded source) (lang.applyNamed name context.flatten) store
      world with ⟨result, next⟩
    rw [hfollow] at hfetches
    rw [perform_template hfollow]
    cases result with
    | ok html => exact hfetches
    | error e => exact hfetches

/-- **Steps fetch the templates that they come to**, one after another. -/
theorem fetchesAll_performAll (source : Source σ) (steps : List Step)
    (progress : Progress lang (σ × List Asking)) :
    FetchesAll source (usedAll (recorded source) steps progress) progress.stage.held
      (performAll (recorded source) steps progress).2.stage.held := by
  induction steps generalizing progress with
  | nil => exact .nil
  | cons step steps ih =>
    have hfirst := fetchesAll_perform source step progress
    match hstep : step.perform (recorded source) progress with
    | (.ok (), next) =>
      rw [hstep] at hfirst
      rw [usedAll, hstep, performAll_cons_ok hstep]
      exact hfirst.append (ih next)
    | (.error e, broken) =>
      rw [hstep] at hfirst
      rw [usedAll, hstep, performAll_cons_error hstep]
      exact hfirst.append .nil

/-! ## Uses -/

/-- What templates are used for. -/
inductive Use where
  | render (tree : Tree) (context : Context)
  | apply (name : String) (frame : Frame)
  | check (name : String)

instance instDecidableEqResult : DecidableEq (Except RenderError Safe)
  | .ok html, .ok html' =>
    decidable_of_iff (html = html') ⟨congrArg Except.ok, Except.ok.inj⟩
  | .error e, .error e' =>
    decidable_of_iff (e = e') ⟨congrArg Except.error, Except.error.inj⟩
  | .ok _, .error _ => isFalse nofun
  | .error _, .ok _ => isFalse nofun

inductive Reply where
  | html (result : Except RenderError Safe)
  | found (found : Bool)
  deriving DecidableEq

/-- The stage for a use. -/
def stageOf (context : Context) (held : Store lang × σ) : Stage lang σ :=
  ⟨context, held.1, held.2, []⟩

/-- What an application gives in a use. -/
def replyTo (source : Source σ) (app : Application lang.Compiled) (held : Store lang × σ) :
    Reply × Store lang × σ :=
  let (result, held) := Store.follow source app held.1 held.2
  (.html result, held)

def Use.perform (source : Source σ) (use : Use) (held : Store lang × σ) :
    Reply × Store lang × σ :=
  match use with
  | .render tree context =>
    let (result, last) := (tree.render source).run (stageOf context held)
    (.html result, last.held)
  | .apply name frame => replyTo source (lang.applyNamed name frame) held
  | .check name =>
    let (found, last) := (hasTemplate source name).run (stageOf .empty held)
    (.found found, last.held)

/-- The names that a use comes to, each as often as it does. -/
def Use.used (source : Source σ) (use : Use) (held : Store lang × σ) : List String :=
  match use with
  | .render tree context => usedAll source tree.steps ⟨stageOf context held, []⟩
  | .apply name frame => namesAsked source (lang.applyNamed name frame) held
  | .check name => [name]

section

variable {source : Source σ} {source' : Source τ} {use : Use}

theorem perform_check {name : String} {held next : Store lang × σ}
    {result : Except RenderError lang.Compiled}
    (hfetch : held.1.fetch source name held.2 = (result, next)) :
    (Use.check name).perform source held = (.found result.isOk, next) := by
  have hrun : (hasTemplate source name).run (stageOf .empty held) =
      (((fetchTemplate source name).run (stageOf .empty held)).1.isOk,
        ((fetchTemplate source name).run (stageOf .empty held)).2) := rfl
  have hfetched : (fetchTemplate source name).run (stageOf .empty held) = _ :=
    run_onTemplates hfetch
  rw [Use.perform, hrun, hfetched]
  rfl

/-- A template that is kept is applied as it is kept. -/
theorem perform_apply_of_kept {name : String} {template : lang.Compiled} {held : Store lang × σ}
    (hget : held.1.get? name = some template) (frame : Frame) :
    (Use.apply name frame).perform source held =
      replyTo source (lang.apply template frame) held := by
  rw [Use.perform, replyTo, Store.follow_applyNamed (fetch_of_kept hget), replyTo]

/-- **Uses give the same** and leave what is alike, if the templates that they come to are the
    same. -/
theorem Use.alike {R : Store lang × σ → Store lang × τ → Prop} {held : Store lang × σ}
    {held' : Store lang × τ}
    (hnames : ∀ name ∈ use.used source held, FetchAlike R source source' name) (h : R held held') :
    (use.perform source held).1 = (use.perform source' held').1 ∧
      R (use.perform source held).2 (use.perform source' held').2 := by
  cases use with
  | render tree context =>
    have hsteps := alike_performAll hnames (.mk context [] [] h)
    simp only [Use.perform, run_render_eq]
    match performAll source tree.steps ⟨stageOf context held, []⟩,
        performAll source' tree.steps ⟨stageOf context held', []⟩, hsteps with
    | (.ok (), _), (.ok (), _), ⟨_, .mk _ _ _ hheld⟩ => exact ⟨rfl, hheld⟩
    | (.error _, _), (.error _, _), ⟨rfl, .mk _ _ _ hheld⟩ => exact ⟨rfl, hheld⟩
  | apply name frame =>
    obtain ⟨result, next, next', hheld, hfollow, hfollow'⟩ := exists_follow hnames h
    rw [Use.perform, Use.perform, replyTo, replyTo, hfollow, hfollow']
    exact ⟨rfl, hheld⟩
  | check name =>
    obtain ⟨result, next, next', hheld, hfetch, hfetch'⟩ :=
      (hnames name List.mem_cons_self).exists_fetch h
    rw [perform_check hfetch, perform_check hfetch']
    exact ⟨rfl, hheld⟩

/-- **A use fetches the templates that it comes to**, one after another. -/
theorem Use.fetchesAll (source : Source σ) (use : Use) (held : Store lang × σ × List Asking) :
    FetchesAll source (use.used (recorded source) held) held
      (use.perform (recorded source) held).2 := by
  cases use with
  | render tree context =>
    have hsteps := fetchesAll_performAll source tree.steps ⟨stageOf context held, []⟩
    rw [Use.perform, run_render_eq]
    match hperform : performAll (recorded source) tree.steps ⟨stageOf context held, []⟩ with
    | (.ok (), last) =>
      rw [hperform] at hsteps
      exact hsteps
    | (.error e, broken) =>
      rw [hperform] at hsteps
      exact hsteps
  | apply name frame => exact fetchesAll_follow source (lang.applyNamed name frame) held
  | check name =>
    rw [perform_check (Prod.eta _).symm]
    exact .cons (fetches_of_fetch (Prod.eta _).symm) .nil

end

end Document
end BracketMark
