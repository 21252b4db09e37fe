import BracketMark.Proofs.Document.Frames

/-!
# Rendering step by step

Rendering goes down into a tree and fails from any depth.  Written out it is a list of steps:
what is inside a tag comes before its hook, its hook before its template, and siblings come one
after another (`Tree.steps`).  The steps share the stage and a pile of finished HTML, and the first
that fails ends them all (`performAll`).

That rendering is nothing else than to perform these steps is said once for a tree
(`follows_render`): the HTML is what lies on the pile in the end, the error is that of the step that
failed, and what is left of the stage is what that step left, with the frames closed.  So rendering
is in order (`render_inOrder`).
-/

namespace BracketMark
namespace Document

open Html Tag Template

variable {lang : Language} {σ α : Type}

/-! ## Steps -/

inductive Step where
  /-- Finish the HTML of a literal. -/
  | literal (text : String)
  /-- Make one of the last pieces that are finished. -/
  | join (count : Nat)
  /-- Open the frame of a tag. -/
  | enter
  /-- Bind the last piece as the contents of the tag, and its arguments. -/
  | bind (args : Arguments)
  /-- Run the hook of the tag, if it has one. -/
  | hook (definition : Definition) (tag : Occurrence)
  /-- Load a template and apply it to all that shows. -/
  | template (name : String)
  /-- Close the frame of the tag. -/
  | leave

mutual

def Tree.steps : Tree → List Step
  | .literal text => [.literal text]
  | .block children => stepsAll children ++ [.join children.length]
  | .tag definition args contents =>
    .enter :: (contents.steps ++ [.bind args,
      .hook definition (occurrence definition args contents), .template definition.template,
      .leave])

def stepsAll : List Tree → List Step
  | [] => []
  | tree :: trees => tree.steps ++ stepsAll trees

end

/-- A rendering between two steps. -/
structure Progress (lang : Language) (σ : Type) where
  stage : Stage lang σ
  /-- The pieces that are finished and not used yet, the last one first. -/
  finished : List Safe

/-- What a step leaves behind, also when it fails. -/
def Step.perform (source : Source σ) (step : Step) (progress : Progress lang σ) :
    Except RenderError Unit × Progress lang σ :=
  let stage := progress.stage
  let finished := progress.finished
  match step with
  | .literal text => (.ok (), ⟨stage, Html.literal text :: finished⟩)
  | .join count =>
    (.ok (), ⟨stage, Safe.join (finished.take count).reverse :: finished.drop count⟩)
  | .enter => (.ok (), ⟨stage.inside, finished⟩)
  | .bind args =>
    let context := stage.context.insert "contents" (.safe (finished.headD ⟨""⟩))
    (.ok (), ⟨{ stage with context := bindArguments args context }, finished.tail⟩)
  | .hook definition tag =>
    let (result, stage) := (runHook definition tag).run stage
    (result, ⟨stage, finished⟩)
  | .template name =>
    match (renderTemplate source name).run stage with
    | (.ok html, stage) => (.ok (), ⟨stage, html :: finished⟩)
    | (.error e, stage) => (.error e, ⟨stage, finished⟩)
  | .leave => (.ok (), ⟨{ stage with context := stage.context.pop }, finished⟩)

/-- Steps one after another; the first that fails is the last. -/
def performAll (source : Source σ) :
    List Step → Progress lang σ → Except RenderError Unit × Progress lang σ
  | [], progress => (.ok (), progress)
  | step :: steps, progress =>
    match step.perform source progress with
    | (.ok (), next) => performAll source steps next
    | (.error e, broken) => (.error e, broken)

section

variable {source : Source σ} {step : Step} {steps more : List Step}
  {progress next broken : Progress lang σ} {e : RenderError}

theorem performAll_cons_ok (h : step.perform source progress = (.ok (), next)) :
    performAll source (step :: steps) progress = performAll source steps next := by
  rw [performAll, h]

theorem performAll_cons_error (h : step.perform source progress = (.error e, broken)) :
    performAll source (step :: steps) progress = (.error e, broken) := by
  rw [performAll, h]

theorem performAll_append_ok (h : performAll source steps progress = (.ok (), next)) :
    performAll source (steps ++ more) progress = performAll source more next := by
  induction steps generalizing progress with
  | nil =>
    cases h
    rfl
  | cons step steps ih =>
    match hstep : step.perform source progress with
    | (.ok (), between) =>
      rw [performAll_cons_ok hstep] at h
      rw [List.cons_append, performAll_cons_ok hstep, ih h]
    | (.error e, broken) =>
      rw [performAll_cons_error hstep] at h
      cases h

theorem performAll_append_error (h : performAll source steps progress = (.error e, broken)) :
    performAll source (steps ++ more) progress = (.error e, broken) := by
  induction steps generalizing progress with
  | nil => cases h
  | cons step steps ih =>
    match hstep : step.perform source progress with
    | (.ok (), between) =>
      rw [performAll_cons_ok hstep] at h
      rw [List.cons_append, performAll_cons_ok hstep, ih h]
    | (.error e, broken) =>
      rw [performAll_cons_error hstep] at h
      rw [List.cons_append, performAll_cons_error hstep, h]

/-- **Steps that fail fail at one of them**, after all before it and before all behind it. -/
theorem performAll_eq_error_iff :
    performAll source steps progress = (.error e, broken) ↔
      ∃ before step after between, steps = before ++ step :: after ∧
        performAll source before progress = (.ok (), between) ∧
        step.perform source between = (.error e, broken) := by
  constructor
  · intro h
    induction steps generalizing progress with
    | nil => cases h
    | cons step steps ih =>
      match hstep : step.perform source progress with
      | (.ok (), between) =>
        rw [performAll_cons_ok hstep] at h
        obtain ⟨before, failed, after, last, rfl, hbefore, hfailed⟩ := ih h
        refine ⟨step :: before, failed, after, last, rfl, ?_, hfailed⟩
        rw [performAll_cons_ok hstep, hbefore]
      | (.error e', broken') =>
        rw [performAll_cons_error hstep] at h
        exact ⟨[], step, steps, progress, rfl, rfl, hstep.trans h⟩
  · rintro ⟨before, step, after, between, rfl, hbefore, hstep⟩
    rw [performAll_append_ok hbefore, performAll_cons_error hstep]

end

/-! ## Rendering is performing the steps -/

/-- The steps do what the action does: they succeed as it does and finish its pieces, the last one
    first, and they fail as it does, but for the frames that they leave open. -/
structure Follows (lang : Language) (source : Source σ) (steps : List Step)
    (pieces : α → List Safe) (action : RenderM lang σ α) : Prop where
  ok {stage after : Stage lang σ} {a : α} (finished : List Safe)
    (h : action.run stage = (.ok a, after)) :
    performAll source steps ⟨stage, finished⟩ = (.ok (), ⟨after, pieces a ++ finished⟩)
  error {stage after : Stage lang σ} {e : RenderError} (finished : List Safe)
    (h : action.run stage = (.error e, after)) :
    ∃ broken, performAll source steps ⟨stage, finished⟩ = (.error e, broken) ∧
      after = { broken.stage with context := stage.context }

section

variable {source : Source σ}

theorem follows_pure {steps : List Step} {pieces : α → List Safe} {a : α}
    (h : ∀ (stage : Stage lang σ) finished,
      performAll source steps ⟨stage, finished⟩ = (.ok (), ⟨stage, pieces a ++ finished⟩)) :
    Follows lang source steps pieces (pure a) where
  ok finished hrun := by
    cases hrun
    exact h _ finished
  error finished hrun := by cases hrun

theorem length_of_renderAll_ok {trees : List Tree} {htmls : List Safe} {stage after : Stage lang σ}
    (h : (renderAll source trees).run stage = (.ok htmls, after)) :
    htmls.length = trees.length := by
  induction trees generalizing htmls stage with
  | nil =>
    rw [renderAll] at h
    cases h
    rfl
  | cons tree trees ih =>
    rw [renderAll] at h
    obtain ⟨html, between, -, h⟩ := exists_of_run_bind_ok h
    obtain ⟨rest, last, hrest, h⟩ := exists_of_run_bind_ok h
    cases h
    rw [List.length_cons, ih hrest, List.length_cons]

theorem follows_block {children : List Tree}
    (h : Follows lang source (stepsAll children) List.reverse (renderAll source children)) :
    Follows lang source (Tree.block children).steps (fun html => [html])
      ((Tree.block children).render source) where
  ok {stage after html} finished hrun := by
    rw [Tree.render] at hrun
    obtain ⟨htmls, between, hall, hjoin⟩ := exists_of_run_bind_ok hrun
    cases hjoin
    have hlength : htmls.reverse.length = children.length := by
      rw [List.length_reverse, length_of_renderAll_ok hall]
    have hstep : (Step.join children.length).perform source ⟨after, htmls.reverse ++ finished⟩ =
        (.ok (), ⟨after, Safe.join htmls :: finished⟩) := by
      simp only [Step.perform, ← hlength, List.take_left, List.drop_left, List.reverse_reverse]
    rw [Tree.steps, performAll_append_ok (h.ok finished hall), performAll_cons_ok hstep]
    rfl
  error {stage after e} finished hrun := by
    rw [Tree.render] at hrun
    rcases cases_of_run_bind_error hrun with hall | ⟨htmls, between, -, hjoin⟩
    · obtain ⟨broken, hsteps, hafter⟩ := h.error finished hall
      exact ⟨broken, performAll_append_error hsteps, hafter⟩
    · cases hjoin

theorem follows_cons {tree : Tree} {trees : List Tree}
    (h : Follows lang source tree.steps (fun html => [html]) (tree.render source))
    (hrest : Follows lang source (stepsAll trees) List.reverse (renderAll source trees)) :
    Follows lang source (stepsAll (tree :: trees)) List.reverse
      (renderAll source (tree :: trees)) where
  ok {stage after htmls} finished hrun := by
    rw [renderAll] at hrun
    obtain ⟨html, between, htree, hrun⟩ := exists_of_run_bind_ok hrun
    obtain ⟨rest, last, htrees, hrun⟩ := exists_of_run_bind_ok hrun
    cases hrun
    rw [stepsAll, performAll_append_ok (h.ok finished htree), hrest.ok _ htrees]
    simp
  error {stage after e} finished hrun := by
    rw [renderAll] at hrun
    rcases cases_of_run_bind_error hrun with htree | ⟨html, between, htree, hrun⟩
    · obtain ⟨broken, hsteps, hafter⟩ := h.error finished htree
      exact ⟨broken, performAll_append_error hsteps, hafter⟩
    · have hcontext := context_of_run_render htree
      rcases cases_of_run_bind_error hrun with htrees | ⟨rest, last, -, hdone⟩
      · obtain ⟨broken, hsteps, hafter⟩ := hrest.error (html :: finished) htrees
        refine ⟨broken, ?_, ?_⟩
        · rw [stepsAll, performAll_append_ok (h.ok finished htree)]
          exact hsteps
        · rw [hafter, hcontext]
      · cases hdone

/-! ### A tag -/

theorem exists_of_run_inFrame {action : RenderM lang σ α} {stage after : Stage lang σ}
    {result : Except RenderError α} (h : (inFrame action).run stage = (result, after)) :
    ∃ last, action.run stage.inside = (result, last) ∧
      after = { last with context := last.context.pop } := by
  rw [run_inFrame (Prod.eta (action.run stage.inside)).symm] at h
  obtain ⟨rfl, rfl⟩ := Prod.mk.inj h
  exact ⟨_, rfl, rfl⟩

theorem perform_hook {definition : Definition} {tag : Occurrence} {stage after : Stage lang σ}
    {result : Except RenderError Unit} (h : (runHook definition tag).run stage = (result, after))
    (finished : List Safe) :
    (Step.hook definition tag).perform source ⟨stage, finished⟩ = (result, ⟨after, finished⟩) := by
  simp only [Step.perform, h]

theorem perform_template_ok {name : String} {html : Safe} {stage after : Stage lang σ}
    (h : (renderTemplate source name).run stage = (.ok html, after)) (finished : List Safe) :
    (Step.template name).perform source ⟨stage, finished⟩ =
      (.ok (), ⟨after, html :: finished⟩) := by
  simp only [Step.perform, h]

theorem perform_template_error {name : String} {e : RenderError} {stage after : Stage lang σ}
    (h : (renderTemplate source name).run stage = (.error e, after)) (finished : List Safe) :
    (Step.template name).perform source ⟨stage, finished⟩ =
      (.error e, ⟨after, finished⟩) := by
  simp only [Step.perform, h]

/-- The stage of a tag when its hook is to run. -/
def Stage.bound (stage : Stage lang σ) (args : Arguments) (inner : Safe) : Stage lang σ :=
  { stage with context := ⟨tagFrame args inner, stage.context.below⟩ }

section

variable {definition : Definition} {args : Arguments} {contents : Tree}
  {stage stage₁ : Stage lang σ}

/-- What comes before the template fails in the contents, or it ends as the hook does. -/
theorem cases_of_run_prepareTag {result : Except RenderError Unit} {after : Stage lang σ}
    (h : (prepareTag source definition args contents).run stage.inside = (result, after)) :
    (∃ e, result = .error e ∧ (contents.render source).run stage.inside = (.error e, after)) ∨
      ∃ inner stage₁, (contents.render source).run stage.inside = (.ok inner, stage₁) ∧
        (runHook definition (occurrence definition args contents)).run (stage₁.bound args inner) =
          (result, after) := by
  rcases hcontents : (contents.render source).run stage.inside with ⟨e | inner, stage₁⟩
  · rw [prepareTag, run_bind_error hcontents] at h
    obtain ⟨rfl, rfl⟩ := Prod.mk.inj h
    exact Or.inl ⟨e, rfl, rfl⟩
  · have hcontext := context_of_run_render hcontents
    refine Or.inr ⟨inner, stage₁, rfl, ?_⟩
    rw [run_prepareTag_eq hcontents hcontext, ← hcontext] at h
    exact h

variable (h : Follows lang source contents.steps (fun html => [html]) (contents.render source))

include h

/-- When the contents are finished, what is left of a tag are its hook and its template. -/
theorem performAll_tag {inner : Safe}
    (hcontents : (contents.render source).run stage.inside = (.ok inner, stage₁))
    (finished : List Safe) :
    performAll source (Tree.tag definition args contents).steps ⟨stage, finished⟩ =
      performAll source [.hook definition (occurrence definition args contents),
        .template definition.template, .leave] ⟨stage₁.bound args inner, finished⟩ := by
  have hbind : (Step.bind args).perform source ⟨stage₁, inner :: finished⟩ =
      (.ok (), ⟨stage₁.bound args inner, finished⟩) := by
    simp only [Step.perform, List.headD_cons, List.tail_cons, bindArguments_eq, Stage.bound]
    rw [context_of_run_render hcontents]
    rfl
  rw [Tree.steps, performAll_cons_ok rfl, performAll_append_ok (h.ok finished hcontents)]
  exact performAll_cons_ok hbind

theorem follows_tag : Follows lang source (Tree.tag definition args contents).steps
    (fun html => [html]) ((Tree.tag definition args contents).render source) where
  ok {stage after html} finished hrun := by
    rw [render_tag] at hrun
    obtain ⟨last, hlast, rfl⟩ := exists_of_run_inFrame hrun
    obtain ⟨_, prepared, hprepare, htemplate⟩ := exists_of_run_bind_ok hlast
    rcases cases_of_run_prepareTag hprepare with ⟨e, herror, -⟩ | ⟨inner, stage₁, hcontents, hhook⟩
    · cases herror
    · rw [performAll_tag h hcontents, performAll_cons_ok (perform_hook hhook finished),
        performAll_cons_ok (perform_template_ok htemplate finished)]
      rfl
  error {stage after e} finished hrun := by
    have hafter := context_of_run_render hrun
    rw [render_tag] at hrun
    obtain ⟨last, hlast, rfl⟩ := exists_of_run_inFrame hrun
    -- wherever the tag failed, closing its frame gives back the context that was there before
    have hclosed : { last with context := last.context.pop } =
        { last with context := stage.context } :=
      congrArg (fun context => { last with context := context }) hafter
    rcases cases_of_run_bind_error hlast with hprepare | ⟨_, prepared, hprepare, htemplate⟩
    · rcases cases_of_run_prepareTag hprepare with
        ⟨e, herror, hcontents⟩ | ⟨inner, stage₁, hcontents, hhook⟩
      · cases herror
        obtain ⟨broken, hsteps, rfl⟩ := h.error finished hcontents
        refine ⟨broken, ?_, rfl⟩
        rw [Tree.steps, performAll_cons_ok rfl]
        exact performAll_append_error hsteps
      · refine ⟨⟨last, finished⟩, ?_, hclosed⟩
        rw [performAll_tag h hcontents, performAll_cons_error (perform_hook hhook finished)]
    · rcases cases_of_run_prepareTag hprepare with
        ⟨e, herror, -⟩ | ⟨inner, stage₁, hcontents, hhook⟩
      · cases herror
      · refine ⟨⟨last, finished⟩, ?_, hclosed⟩
        rw [performAll_tag h hcontents, performAll_cons_ok (perform_hook hhook finished),
          performAll_cons_error (perform_template_error htemplate finished)]

end

end

mutual

/-- **Rendering a tree is performing its steps.** -/
theorem follows_render (lang : Language) (source : Source σ) (tree : Tree) :
    Follows lang source tree.steps (fun html => [html]) (tree.render source) := by
  match tree with
  | .literal text =>
    rw [Tree.render, Tree.steps]
    exact follows_pure fun _ _ => rfl
  | .block children => exact follows_block (follows_renderAll lang source children)
  | .tag definition args contents => exact follows_tag (follows_render lang source contents)

theorem follows_renderAll (lang : Language) (source : Source σ) (trees : List Tree) :
    Follows lang source (stepsAll trees) List.reverse (renderAll source trees) := by
  match trees with
  | [] =>
    rw [renderAll, stepsAll]
    exact follows_pure fun _ _ => rfl
  | tree :: trees =>
    exact follows_cons (follows_render lang source tree) (follows_renderAll lang source trees)

end

/-- What steps come to for a caller with this context. -/
def conclude (context : Context) :
    Except RenderError Unit × Progress lang σ → Except RenderError Safe × Stage lang σ
  | (.ok (), last) => (.ok (last.finished.headD ⟨""⟩), last.stage)
  | (.error e, broken) => (.error e, { broken.stage with context := context })

theorem run_render_eq (source : Source σ) (tree : Tree) (stage : Stage lang σ) :
    (tree.render source).run stage =
      conclude stage.context (performAll source tree.steps ⟨stage, []⟩) := by
  have hfollows := follows_render lang source tree
  match hrun : (tree.render source).run stage with
  | (.ok html, last) =>
    rw [hfollows.ok [] hrun]
    rfl
  | (.error e, last) =>
    obtain ⟨broken, hsteps, rfl⟩ := hfollows.error [] hrun
    rw [hsteps]
    rfl

/-! ## The order -/

mutual

/-- The tags of a tree: what is inside one comes before it, and siblings come from the left to
    the right. -/
def Tree.tags : Tree → List (Definition × Occurrence)
  | .literal _ => []
  | .block children => tagsAll children
  | .tag definition args contents =>
    contents.tags ++ [(definition, occurrence definition args contents)]

def tagsAll : List Tree → List (Definition × Occurrence)
  | [] => []
  | tree :: trees => tree.tags ++ tagsAll trees

end

/-- The steps that run what a caller has supplied: hooks and templates. -/
def Step.callsOut : Step → Bool
  | .hook _ _ | .template _ => true
  | _ => false

/-- What is called for a tag. -/
def tagCalls (tag : Definition × Occurrence) : List Step :=
  [.hook tag.1 tag.2, .template tag.1.template]

mutual

theorem filter_steps (tree : Tree) :
    tree.steps.filter Step.callsOut = tree.tags.flatMap tagCalls := by
  match tree with
  | .literal text => rfl
  | .block children =>
    rw [Tree.steps, Tree.tags, List.filter_append, filter_stepsAll children]
    exact List.append_nil _
  | .tag definition args contents =>
    rw [Tree.steps, Tree.tags, List.filter_cons_of_neg Bool.false_ne_true, List.filter_append,
      filter_steps contents, List.flatMap_append]
    rfl

theorem filter_stepsAll (trees : List Tree) :
    (stepsAll trees).filter Step.callsOut = (tagsAll trees).flatMap tagCalls := by
  match trees with
  | [] => rfl
  | tree :: trees =>
    rw [stepsAll, tagsAll, List.filter_append, filter_steps tree, filter_stepsAll trees,
      List.flatMap_append]

end

/-- Whatever calls nothing succeeds. -/
theorem callsOut_of_perform_error {source : Source σ} {step : Step}
    {progress broken : Progress lang σ} {e : RenderError}
    (h : step.perform source progress = (.error e, broken)) :
    step.callsOut = true := by
  cases step with
  | hook definition tag => rfl
  | template name => rfl
  | literal text => cases h
  | join count => cases h
  | enter => cases h
  | bind args => cases h
  | leave => cases h

/-- **Rendering is in order.**  The hooks and templates of a tree come tag by tag, the tags inside
    a tag before it and its hook before its template.  A tree renders to HTML exactly if all its
    steps succeed, and then to what they leave; it fails exactly if one of them fails after all
    before it succeeded, with the error of that step, and on the stage that it left: nothing is
    called after it, but the context is what it was. -/
theorem render_inOrder (source : Source σ) (tree : Tree) (stage : Stage lang σ) :
    tree.steps.filter Step.callsOut = tree.tags.flatMap tagCalls ∧
      (∀ html stage', (tree.render source).run stage = (.ok html, stage') ↔
        performAll source tree.steps ⟨stage, []⟩ = (.ok (), ⟨stage', [html]⟩)) ∧
      ∀ e stage', (tree.render source).run stage = (.error e, stage') ↔
        ∃ before step after between broken, tree.steps = before ++ step :: after ∧
          step.callsOut = true ∧
          performAll source before ⟨stage, []⟩ = (.ok (), between) ∧
          step.perform source between = (.error e, broken) ∧
          stage' = { broken.stage with context := stage.context } := by
  have hfollows := follows_render lang source tree
  refine ⟨filter_steps tree, fun html stage' => ⟨hfollows.ok [], fun h => ?_⟩,
    fun e stage' => ⟨fun h => ?_, ?_⟩⟩
  · match hrun : (tree.render source).run stage with
    | (.ok html', stage'') =>
      rw [hfollows.ok [] hrun] at h
      cases h
      rfl
    | (.error e, stage'') =>
      obtain ⟨broken, hsteps, -⟩ := hfollows.error [] hrun
      rw [hsteps] at h
      cases h
  · obtain ⟨broken, hsteps, hstage⟩ := hfollows.error [] h
    obtain ⟨before, step, after, between, heq, hbefore, hstep⟩ := performAll_eq_error_iff.1 hsteps
    exact ⟨before, step, after, between, broken, heq, callsOut_of_perform_error hstep, hbefore,
      hstep, hstage⟩
  · rintro ⟨before, step, after, between, broken, heq, -, hbefore, hstep, rfl⟩
    have hsteps : performAll source tree.steps ⟨stage, []⟩ = (.error e, broken) :=
      performAll_eq_error_iff.2 ⟨before, step, after, between, heq, hbefore, hstep⟩
    match hrun : (tree.render source).run stage with
    | (.ok html, stage'') =>
      rw [hfollows.ok [] hrun] at hsteps
      cases hsteps
    | (.error e', stage'') =>
      obtain ⟨broken', hsteps', rfl⟩ := hfollows.error [] hrun
      rw [hsteps'] at hsteps
      cases hsteps
      rfl

/-- A tag whose hook takes note of it and refuses, with an error that does not name the tag. -/
def busyTag : Definition :=
  ⟨"busy", .none, none, none,
    some fun tag => .note ⟨tag.name, none, 0, none⟩ (.refuse (.operation "later")),
    by decide, by decide⟩

/-- A tag without a template, where there are none. -/
def ghostTag : Definition := ⟨"ghost", .none, none, none, none, by decide, by decide⟩

/-- A source that has nothing and writes down what it is asked for. -/
def emptySource : Source (List String) := fun name asked => (.ok none, name :: asked)

/-- Of two tags that fail, the first one decides the error, and the second is not come to: the
    source is not asked for its template, and its hook writes nothing down. -/
example :
    let busy : Tree := .tag busyTag .none (.literal "a")
    let ghost : Tree := .tag ghostTag .none (.literal "b")
    let stage : Stage lang (List String) := ⟨.empty, .empty, [], []⟩
    ((Tree.block [busy, ghost]).render emptySource).run stage =
        (.error (.operation "later"), { stage with notes := [⟨"busy", none, 0, none⟩] }) ∧
      ((Tree.block [ghost, busy]).render emptySource).run stage =
        (.error (.missing "tags/ghost.html"), { stage with world := ["tags/ghost.html"] }) :=
  ⟨rfl, rfl⟩

end Document
end BracketMark
