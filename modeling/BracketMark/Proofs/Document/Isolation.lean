import Mathlib
import BracketMark.Proofs.Context
import BracketMark.Proofs.Document.Frames

/-!
# Tags do not see each other

While a tag is rendered, the frames of all tags around it are open, and its template is applied to
everything that shows.  Still it sees nothing of them: a tag renders its contents before it binds
anything, so at that time the frames around the contents are empty, and the frames of what was
rendered before are closed.  What a template is applied to is therefore a function of the tag
itself and of the caller's bindings, and so is its HTML (`Tree.alone`, `result_render`), if the
templates stay the same and no hook asks how many frames are open.
-/

namespace BracketMark

namespace Template

open Html

variable {lang : Language} {σ : Type}

/-! ## Templates that stay the same -/

/-- A source that gives these answers, whatever the state of its world. -/
def IsFixed (source : Source σ) (answers : String → Except LookupError (Option String)) : Prop :=
  ∀ name world, (source name world).1 = answers name

/-- The template of a name: the one kept, or else what the source's answer gives. -/
def Store.resolve (answers : String → Except LookupError (Option String)) (store : Store lang)
    (name : String) : Except RenderError lang.Compiled :=
  match store.get? name with
  | some template => .ok template
  | none => lang.ofAnswer name (answers name)

/-- Fetching a template changes no template. -/
theorem fetch_of_isFixed {source : Source σ} {answers : String → Except LookupError (Option String)}
    (hfixed : IsFixed source answers) (store : Store lang) (name : String) (world : σ) :
    ∃ store' world', store.fetch source name world = (store.resolve answers name, store', world') ∧
      store'.resolve answers = store.resolve answers := by
  rw [Store.fetch]
  cases hget : store.get? name with
  | some template => exact ⟨store, world, by rw [Store.resolve, hget], rfl⟩
  | none =>
    have hresolve : store.resolve answers name = lang.ofAnswer name (source name world).1 := by
      rw [Store.resolve, hget, hfixed]
    cases hanswer : lang.ofAnswer name (source name world).1 with
    | error e =>
      refine ⟨store, (source name world).2, ?_, rfl⟩
      simp only [hanswer, hresolve]
    | ok template =>
      refine ⟨store.insert name template, (source name world).2, ?_, ?_⟩
      · simp only [hanswer, hresolve]
      · funext other
        rw [Store.resolve, Dict.get?_insert]
        by_cases hname : other = name
        · rw [if_pos hname, hname, hresolve, hanswer]
        · rw [if_neg hname, Store.resolve]

/-- What an application gives if these are the templates. -/
def Application.result {T : Type} (templates : String → Except RenderError T) :
    Application T → Except RenderError Safe
  | .done result => result
  | .ask name next => (next (templates name)).result templates

/-- An application changes no template, and gives what it gives with those that there are. -/
theorem follow_of_isFixed {source : Source σ}
    {answers : String → Except LookupError (Option String)} (hfixed : IsFixed source answers)
    (app : Application lang.Compiled) (store : Store lang) (world : σ) :
    ∃ store' world', Store.follow source app store world =
        (app.result (store.resolve answers), store', world') ∧
      store'.resolve answers = store.resolve answers := by
  induction app generalizing store world with
  | done result => exact ⟨store, world, rfl, rfl⟩
  | ask name next ih =>
    obtain ⟨between, world₁, hfetch, hbetween⟩ := fetch_of_isFixed hfixed store name world
    obtain ⟨store', world', hfollow, hstore'⟩ := ih (store.resolve answers name) between world₁
    refine ⟨store', world', ?_, hstore'.trans hbetween⟩
    rw [Store.follow_ask hfetch, hfollow, hbetween, Application.result]

end Template

namespace Document

open Html Tag Template

variable {lang : Language} {σ α : Type}

/-! ## Hooks that do not ask for the depth -/

/-- A script that never asks how many frames are open. -/
def IgnoresDepth : Script → Prop
  | .done => True
  | .refuse _ => True
  | .bind _ _ next => IgnoresDepth next
  | .unbind _ next => ∀ value, IgnoresDepth (next value)
  | .look _ next => ∀ value, IgnoresDepth (next value)
  | .flatten next => ∀ frame, IgnoresDepth (next frame)
  | .depth _ => False
  | .note _ next => IgnoresDepth next

/-- No tag of the tree has a hook that asks how many frames are open. -/
def Tree.IgnoresDepth (tree : Tree) : Prop :=
  ∀ definition args contents, (Tree.tag definition args contents).PartOf tree →
    ∀ hook, definition.hook? = some hook →
      Document.IgnoresDepth (hook (occurrence definition args contents))

/-- Such a script does the same between any frames that show the same. -/
theorem playScript_congr {script : Script} (hscript : IgnoresDepth script)
    {below below' : List Frame}
    (hbelow : ∀ key : String, below.findSome? (·.get? key) = below'.findSome? (·.get? key))
    (frame : Frame) : playScript below script frame = playScript below' script frame := by
  induction script generalizing frame with
  | done => rfl
  | refuse error => rfl
  | bind key value next ih => exact ih hscript (frame.insert key value)
  | unbind key next ih => exact ih _ (hscript _) (frame.erase key)
  | look key next ih =>
    rw [playScript, playScript, Context.get?_congr (hbelow key)]
    exact ih _ (hscript _) frame
  | flatten next ih =>
    rw [playScript, playScript, Context.flatten_congr hbelow]
    exact ih _ (hscript _) frame
  | depth next => cases hscript
  | note note next ih => exact ih hscript frame

/-- A hook sees what shows around its tag, and not on how many frames. -/
theorem playHook_flatten {definition : Definition} {tag : Occurrence}
    (hhook : ∀ hook, definition.hook? = some hook → IgnoresDepth (hook tag)) (ctx : Context)
    (frame : Frame) :
    playHook definition tag (ctx.top :: ctx.below) frame =
      playHook definition tag [ctx.flatten] frame := by
  have hscript : IgnoresDepth (hookScript definition tag) := by
    rw [hookScript]
    cases hhook? : definition.hook? with
    | none => exact trivial
    | some hook => exact hhook hook hhook?
  rw [playHook_eq, playHook_eq]
  refine playScript_congr hscript (fun key => ?_) frame
  have hshown : ctx.get? key = ctx.flatten.get? key := (ctx.get?_flatten key).symm
  rw [Context.get?] at hshown
  rw [hshown, List.findSome?_cons, List.findSome?_nil]
  cases ctx.flatten.get? key <;> rfl

/-! ## Documents on their own -/

mutual

/-- The HTML of a document that stands alone: its templates are applied to what its own tags
    bind, laid over the caller's bindings. -/
def Tree.alone (lang : Language) (templates : String → Except RenderError lang.Compiled)
    (base : Frame) : Tree → Except RenderError Safe
  | .literal text => .ok (Html.literal text)
  | .block children => do return Safe.join (← aloneAll lang templates base children)
  | .tag definition args contents => do
    let inner ← contents.alone lang templates base
    let frame ← playHook definition (occurrence definition args contents) [base]
      (tagFrame args inner)
    (lang.applyNamed definition.template (base.overlay frame)).result templates

def aloneAll (lang : Language) (templates : String → Except RenderError lang.Compiled)
    (base : Frame) : List Tree → Except RenderError (List Safe)
  | [] => .ok []
  | tree :: trees => do
    let html ← tree.alone lang templates base
    let rest ← aloneAll lang templates base trees
    return html :: rest

end

/-! ## What rendering comes to -/

section

variable {source : Source σ} {answers : String → Except LookupError (Option String)}

/-- The templates of a stage stay what they are, whatever is rendered. -/
theorem restored_templates (hfixed : IsFixed source answers) :
    Restored source (fun stage : Stage lang σ => stage.store.resolve answers)
      (·.store.resolve answers) where
  inFrame h := fun stage => h stage.inside
  inner_of_outer h := h
  top _ _ := rfl
  notes _ _ := rfl
  fetch name := by
    intro stage
    obtain ⟨store, world, hfetch, hresolve⟩ :=
      fetch_of_isFixed hfixed stage.store name stage.world
    show (stage.store.fetch source name stage.world).2.1.resolve answers = _
    rw [hfetch, hresolve]

/-- A template is applied to all that shows. -/
theorem result_renderTemplate (hfixed : IsFixed source answers) (name : String)
    (stage : Stage lang σ) :
    ((renderTemplate source name).run stage).1 =
      (lang.applyNamed name stage.context.flatten).result (stage.store.resolve answers) := by
  obtain ⟨store, world, hfollow, -⟩ := follow_of_isFixed hfixed
    (lang.applyNamed name stage.context.flatten) stage.store stage.world
  rw [run_renderTemplate hfollow]

theorem Tree.IgnoresDepth.child {children : List Tree} (h : (Tree.block children).IgnoresDepth)
    {tree : Tree} (hmem : tree ∈ children) : tree.IgnoresDepth :=
  fun definition args contents hpart => h definition args contents (.child hmem hpart)

theorem Tree.IgnoresDepth.contents {definition : Definition} {args : Arguments} {contents : Tree}
    (h : (Tree.tag definition args contents).IgnoresDepth) : contents.IgnoresDepth :=
  fun definition' args' contents' hpart => h definition' args' contents' (.contents hpart)

theorem result_inFrame {action : RenderM lang σ α} (stage : Stage lang σ) :
    ((inFrame action).run stage).1 = (action.run stage.inside).1 := rfl

/-- A tag renders alone, if its contents do. -/
theorem result_render_tag (hfixed : IsFixed source answers) {definition : Definition}
    {args : Arguments} {contents : Tree}
    (hhooks : (Tree.tag definition args contents).IgnoresDepth) (stage : Stage lang σ)
    (hcontents : ((contents.render source).run stage.inside).1 =
      contents.alone lang (stage.store.resolve answers) stage.context.flatten) :
    (((Tree.tag definition args contents).render source).run stage).1 =
      (Tree.tag definition args contents).alone lang (stage.store.resolve answers)
        stage.context.flatten := by
  have hhook := playHook_flatten (hhooks definition args contents .refl) stage.context
  have hcontext := (restored_context source).render contents stage.inside
  have hresolve := (restored_templates hfixed).render contents stage.inside
  rw [Tree.alone, ← hcontents, render_tag, result_inFrame]
  match hrun : (contents.render source).run stage.inside with
  | (.error e, stage₁) =>
    have hprepare : (prepareTag source definition args contents).run stage.inside =
        (.error e, stage₁) := by
      rw [prepareTag, run_bind_error hrun]
    rw [run_bind_error hprepare]
    rfl
  | (.ok inner, stage₁) =>
    rw [hrun] at hcontext hresolve
    show _ = (playHook definition (occurrence definition args contents) [stage.context.flatten]
      (tagFrame args inner)).bind _
    rw [← hhook]
    cases hplay : playHook definition (occurrence definition args contents)
        (stage.context.top :: stage.context.below) (tagFrame args inner) with
    | error e =>
      obtain ⟨refused, hprepare⟩ := run_prepareTag_error hrun hcontext hplay
      rw [run_bind_error hprepare]
      rfl
    | ok frame =>
      obtain ⟨notes, hprepare⟩ := run_prepareTag hrun hcontext hplay
      rw [run_bind_ok hprepare, result_renderTemplate hfixed]
      show (lang.applyNamed definition.template _).result (stage₁.store.resolve answers) = _
      rw [hresolve]
      rfl

mutual

/-- **A document renders as it does alone**, wherever rendering has come to. -/
theorem result_render (hfixed : IsFixed source answers) {tree : Tree}
    (hhooks : tree.IgnoresDepth) (stage : Stage lang σ) :
    ((tree.render source).run stage).1 =
      tree.alone lang (stage.store.resolve answers) stage.context.flatten := by
  match tree with
  | .literal text =>
    rw [Tree.render, Tree.alone]
    rfl
  | .block children =>
    rw [Tree.render, Tree.alone, ← result_renderAll hfixed (fun _ => hhooks.child) stage]
    match hrun : (renderAll source children).run stage with
    | (.error e, stage') =>
      rw [run_bind_error hrun]
      rfl
    | (.ok htmls, stage') =>
      rw [run_bind_ok hrun]
      rfl
  | .tag definition args contents =>
    exact result_render_tag hfixed hhooks stage (result_render hfixed hhooks.contents stage.inside)

theorem result_renderAll (hfixed : IsFixed source answers) {trees : List Tree}
    (hhooks : ∀ tree ∈ trees, tree.IgnoresDepth) (stage : Stage lang σ) :
    ((renderAll source trees).run stage).1 =
      aloneAll lang (stage.store.resolve answers) stage.context.flatten trees := by
  match trees with
  | [] =>
    rw [renderAll, aloneAll]
    rfl
  | tree :: trees =>
    have hcontext := (restored_context source).render tree stage
    have hresolve := (restored_templates hfixed).render tree stage
    rw [renderAll, aloneAll, ← result_render hfixed (hhooks tree List.mem_cons_self) stage]
    match hrun : (tree.render source).run stage with
    | (.error e, stage') =>
      rw [run_bind_error hrun]
      rfl
    | (.ok html, stage') =>
      rw [hrun] at hcontext hresolve
      have hrest := result_renderAll hfixed
        (fun other hmem => hhooks other (List.mem_cons_of_mem tree hmem)) stage'
      rw [hcontext, hresolve] at hrest
      rw [run_bind_ok hrun]
      show _ = (aloneAll lang (stage.store.resolve answers) stage.context.flatten trees).bind _
      rw [← hrest]
      match hrun' : (renderAll source trees).run stage' with
      | (.error e, _) =>
        rw [run_bind_error hrun']
        rfl
      | (.ok htmls, _) =>
        rw [run_bind_ok hrun']
        rfl

end

/-! ## Where a tag stands -/

theorem Tree.PartOf.trans {part node tree : Tree} (hpart : part.PartOf node)
    (hnode : node.PartOf tree) : part.PartOf tree := by
  induction hnode with
  | refl => exact hpart
  | child hmem _ ih => exact .child hmem ih
  | contents _ ih => exact .contents ih

/-- Wherever rendering has come to, the caller's bindings show and nothing else, and the templates
    are the caller's. -/
theorem Reaches.shows (hfixed : IsFixed source answers) {tree node : Tree}
    {stage place : Stage lang σ} (h : Reaches source tree stage node place) :
    place.context.flatten = stage.context.flatten ∧
      place.store.resolve answers = stage.store.resolve answers := by
  induction h with
  | here => exact ⟨rfl, rfl⟩
  | @child before after child node htmls stage between place hbefore _ ih =>
    have hcontext := (restored_context source).renderAll before stage
    have hresolve := (restored_templates hfixed).renderAll before stage
    rw [hbefore] at hcontext hresolve
    have hbetween : between.context = stage.context := hcontext
    exact ⟨ih.1.trans (congrArg Context.flatten hbetween), ih.2.trans hresolve⟩
  | contents _ ih => exact ih

/-- Siblings that all render do so one after another. -/
theorem exists_of_renderAll_ok {before after : List Tree} {tree : Tree} {htmls : List Safe}
    {stage : Stage lang σ}
    (h : ((renderAll source (before ++ tree :: after)).run stage).1 = .ok htmls) :
    ∃ first between html, (renderAll source before).run stage = (.ok first, between) ∧
      ((tree.render source).run between).1 = .ok html := by
  induction before generalizing stage htmls with
  | nil =>
    rw [List.nil_append, renderAll] at h
    obtain ⟨html, between, htree, -⟩ := exists_of_run_bind_ok (Prod.ext h rfl)
    refine ⟨[], stage, html, ?_, congrArg Prod.fst htree⟩
    rw [renderAll]
    rfl
  | cons other before ih =>
    rw [List.cons_append, renderAll] at h
    obtain ⟨html, middle, hother, hrun⟩ := exists_of_run_bind_ok (Prod.ext h rfl)
    obtain ⟨rest, last, hrest, -⟩ := exists_of_run_bind_ok hrun
    obtain ⟨first, between, own, hbefore, htree⟩ := ih (congrArg Prod.fst hrest)
    refine ⟨html :: first, between, own, ?_, htree⟩
    rw [renderAll, run_bind_ok hother, run_bind_ok hbefore]
    rfl

/-- A document renders only if each part of it is reached and renders there. -/
theorem exists_reaches_of_ok {tree node : Tree} (hpart : node.PartOf tree) {stage : Stage lang σ}
    {html : Safe} (hok : ((tree.render source).run stage).1 = .ok html) :
    ∃ place own, Reaches source tree stage node place ∧
      ((node.render source).run place).1 = .ok own := by
  induction hpart generalizing stage html with
  | refl => exact ⟨stage, html, .here, hok⟩
  | child hmem _ ih =>
    obtain ⟨before, after, rfl⟩ := List.append_of_mem hmem
    rw [Tree.render] at hok
    obtain ⟨htmls, last, hall, -⟩ := exists_of_run_bind_ok (Prod.ext hok rfl)
    obtain ⟨first, between, _, hbefore, hchild⟩ := exists_of_renderAll_ok (congrArg Prod.fst hall)
    obtain ⟨place, own, hreach, hown⟩ := ih hchild
    exact ⟨place, own, .child hbefore hreach, hown⟩
  | contents _ ih =>
    rw [render_tag, result_inFrame] at hok
    obtain ⟨_, _, hprepare, -⟩ := exists_of_run_bind_ok (Prod.ext hok rfl)
    rw [prepareTag] at hprepare
    obtain ⟨inner, last, hcontents, -⟩ := exists_of_run_bind_ok hprepare
    obtain ⟨place, own, hreach, hown⟩ := ih (congrArg Prod.fst hcontents)
    exact ⟨place, own, .contents hreach, hown⟩

/-- A tag has HTML of its own only if its contents have and its hook does not refuse. -/
theorem exists_of_alone_ok {templates : String → Except RenderError lang.Compiled} {base : Frame}
    {definition : Definition} {args : Arguments} {contents : Tree} {own : Safe}
    (h : (Tree.tag definition args contents).alone lang templates base = .ok own) :
    ∃ inner frame, contents.alone lang templates base = .ok inner ∧
      playHook definition (occurrence definition args contents) [base] (tagFrame args inner) =
        .ok frame := by
  rw [Tree.alone] at h
  obtain ⟨inner, hcontents, h⟩ := exists_of_bind_ok h
  obtain ⟨frame, hplay, -⟩ := exists_of_bind_ok h
  exact ⟨inner, frame, hcontents, hplay⟩

/-- What a tag has bound when its template is applied. -/
theorem exists_prepared {definition : Definition} {args : Arguments} {contents : Tree}
    {inner own : Safe} {frame : Frame} {place : Stage lang σ}
    (hhooks : (Tree.tag definition args contents).IgnoresDepth)
    (hcontents : ((contents.render source).run place.inside).1 = .ok inner)
    (hplay : playHook definition (occurrence definition args contents) [place.context.flatten]
      (tagFrame args inner) = .ok frame)
    (hown : (((Tree.tag definition args contents).render source).run place).1 = .ok own) :
    ∃ prepared, (prepareTag source definition args contents).run place.inside = (.ok (), prepared) ∧
      prepared.context.flatten = place.context.flatten.overlay frame ∧
      ((renderTemplate source definition.template).run prepared).1 = .ok own := by
  have hhook := playHook_flatten (hhooks definition args contents .refl) place.context
  have hcontext := (restored_context source).render contents place.inside
  match hrun : (contents.render source).run place.inside with
  | (result, stage₁) =>
    rw [hrun] at hcontents hcontext
    rw [show result = _ from hcontents] at hrun
    rw [← hhook] at hplay
    obtain ⟨notes, hprepare⟩ := run_prepareTag hrun hcontext hplay
    rw [render_tag, result_inFrame, run_bind_ok hprepare] at hown
    exact ⟨_, hprepare, rfl, hown⟩

end

/-- **Tags are isolated from each other.**  The templates stay the same, no hook asks how many
    frames are open, and the document renders.  Then every part of it has HTML of its own, which
    it has wherever it stands in whatever document of the same caller; and the template of a tag
    is applied to the caller's bindings, overlaid with the HTML that its contents have on their
    own, with its arguments, and with what its hook makes of them. -/
theorem isolated_of_partOf {source : Source σ}
    {answers : String → Except LookupError (Option String)} (hfixed : IsFixed source answers)
    {tree node : Tree} (hhooks : tree.IgnoresDepth) (hpart : node.PartOf tree)
    {stage : Stage lang σ} {html : Safe} (hok : ((tree.render source).run stage).1 = .ok html) :
    ∃ own, ((node.render source).run stage).1 = .ok own ∧
      (∃ place, Reaches source tree stage node place) ∧
      (∀ whole place, Reaches source whole stage node place →
        ((node.render source).run place).1 = .ok own) ∧
      ∀ definition args contents, node = .tag definition args contents →
        ∃ inner frame, ((contents.render source).run stage).1 = .ok inner ∧
          playHook definition (occurrence definition args contents) [stage.context.flatten]
            (tagFrame args inner) = .ok frame ∧
          ∀ whole place, Reaches source whole stage node place →
            ∃ prepared,
              (prepareTag source definition args contents).run place.inside = (.ok (), prepared) ∧
              prepared.context.flatten = stage.context.flatten.overlay frame ∧
              ((renderTemplate source definition.template).run prepared).1 = .ok own := by
  have hnode : node.IgnoresDepth :=
    fun definition args contents h => hhooks definition args contents (h.trans hpart)
  have hsame : ∀ whole place, Reaches source whole stage node place →
      ((node.render source).run place).1 = ((node.render source).run stage).1 := by
    intro whole place hreach
    obtain ⟨hflatten, hresolve⟩ := hreach.shows hfixed
    rw [result_render hfixed hnode, result_render hfixed hnode, hflatten, hresolve]
  obtain ⟨place, own, hreach, hplace⟩ := exists_reaches_of_ok hpart hok
  have hown : ((node.render source).run stage).1 = .ok own :=
    (hsame tree place hreach).symm.trans hplace
  refine ⟨own, hown, ⟨place, hreach⟩, fun _ _ hreach => (hsame _ _ hreach).trans hown, ?_⟩
  rintro definition args contents rfl
  have halone := (result_render hfixed hnode stage).symm.trans hown
  obtain ⟨inner, frame, hcontents, hplay⟩ := exists_of_alone_ok halone
  refine ⟨inner, frame, (result_render hfixed hnode.contents stage).trans hcontents, hplay, ?_⟩
  intro whole place hreach
  -- at the tag's place the caller's bindings show, and its contents give what they give alone
  obtain ⟨hflatten, hresolve⟩ := hreach.shows hfixed
  have hinside : ((contents.render source).run place.inside).1 = .ok inner := by
    rw [result_render hfixed hnode.contents]
    show contents.alone lang (place.store.resolve answers) place.context.flatten = .ok inner
    rw [hflatten, hresolve, hcontents]
  rw [← hflatten] at hplay ⊢
  exact exists_prepared hnode hinside hplay ((hsame whole place hreach).trans hown)

/-- A tag that looks up a name before it binds it. -/
def mark : Definition where
  name := "mark"
  contract := .positional
  template? := none
  usage? := none
  hook? := some fun tag => .look "marker" fun before =>
    .bind "before" (before.getD .none) (.bind "marker" (.text (tag.args.arg?.getD "")) .done)
  named := by decide
  folded := by decide

def markTemplate : Compiled :=
  ⟨true, [.print (.name "before"), .text ">", .print (.name "marker"), .text ":",
    .print (.name "contents"), .text ";"]⟩

def innerMark : Tree := .tag mark (.positional "c") (.literal "z")

/-- A mark, and another one around a third. -/
def markTree : Tree :=
  .block [.tag mark (.positional "a") (.literal "x"), .tag mark (.positional "b") innerMark]

/-- A caller with a binding of its own, and with one template. -/
def markStage : Stage .standard Unit :=
  ⟨.ofFrame (.ofList [("marker", .text "top")]), .ofList [("tags/mark.html", markTemplate)], (), []⟩

def noSource : Source Unit := fun _ world => (.ok none, world)

theorem ignoresDepth_markTree : markTree.IgnoresDepth := by
  intro definition args contents hpart hook hhook
  have hmark : definition = mark := by
    cases hpart with
    | child hmem hchild =>
      rcases List.mem_cons.1 hmem with rfl | hmem
      · cases hchild with
        | refl => rfl
        | contents hx => cases hx
      · obtain rfl := List.mem_singleton.1 hmem
        cases hchild with
        | refl => rfl
        | contents hinner =>
          cases hinner with
          | refl => rfl
          | contents hz => cases hz
  subst hmark
  cases hhook
  exact fun value => trivial

/-- The inner mark finds the caller's binding, neither its neighbour's nor that of the mark around
    it. -/
theorem isolated_of_partOf_markTree :
    IsFixed noSource (fun _ => .ok none) ∧ markTree.IgnoresDepth ∧ innerMark.PartOf markTree ∧
      ((markTree.render noSource).run markStage).1 = .ok ⟨"top>a:x;top>b:top>c:z;;"⟩ ∧
      ((innerMark.render noSource).run markStage).1 = .ok ⟨"top>c:z;"⟩ ∧
      (∃ place, Reaches noSource markTree markStage innerMark place) ∧
      ∀ whole place, Reaches noSource whole markStage innerMark place →
        ((innerMark.render noSource).run place).1 = .ok ⟨"top>c:z;"⟩ := by
  have hfixed : IsFixed noSource (fun _ => .ok none) := fun _ _ => rfl
  have hpart : innerMark.PartOf markTree :=
    .child (List.mem_cons_of_mem _ List.mem_cons_self) (.contents .refl)
  have hok : ((markTree.render noSource).run markStage).1 = .ok ⟨"top>a:x;top>b:top>c:z;;"⟩ := by
    cbv
  have hinner : ((innerMark.render noSource).run markStage).1 = .ok ⟨"top>c:z;"⟩ := by cbv
  obtain ⟨own, hown, hreach, hsame, -⟩ :=
    isolated_of_partOf hfixed ignoresDepth_markTree hpart hok
  cases hinner.symm.trans hown
  exact ⟨hfixed, ignoresDepth_markTree, hpart, hok, hinner, hreach, hsame⟩

end Document
end BracketMark
