import BracketMark.Engine
import BracketMark.Proofs.Document.Indexed
import BracketMark.Proofs.Document.StandardTag
import BracketMark.Proofs.Html.Pieces

/-!
# The HTML of documents with the built-in tags

The standard engine builds documents of the nine built-in tags only, and rendering gives each
of them its HTML, which is a function of the document (`Tree.html`): the names bound around a
tag never reach it, and neither does what was rendered before.  So whatever is asked about the
output of the engine can be asked about that function.
-/

namespace BracketMark
namespace Document

open File Html Markup Tag Template

/-! ## Documents that are built -/

/-- A document of built-in tags, each with the kind of arguments it asks for. -/
inductive Tree.IsStandard : Tree → Prop
  | literal (text : String) : IsStandard (.literal text)
  | block {children : List Tree} (h : ∀ child ∈ children, IsStandard child) :
      IsStandard (.block children)
  | tag {d : Definition} {args : Arguments} {contents : Tree} (hd : d ∈ standardTags)
      (hargs : d.contract.Admits args) (hcontents : IsStandard contents) :
      IsStandard (.tag d args contents)

theorem isStandard_ofSiblings {trees : List Tree} (h : ∀ tree ∈ trees, tree.IsStandard) :
    (Tree.ofSiblings trees).IsStandard := by
  rw [Tree.ofSiblings.eq_def]
  split
  case h_1 tree => exact h tree List.mem_cons_self
  case h_2 => exact .block h

theorem isStandard_of_builds {trees : List Tree} {nodes : List Node}
    (h : Builds standardIndex trees nodes) : ∀ tree ∈ trees, tree.IsStandard := by
  induction h with
  | nil => simp
  | literal _ ih => exact List.forall_mem_cons.2 ⟨.literal _, ih⟩
  | tagged hindex _ _ ihchildren ihrest =>
    refine List.forall_mem_cons.2 ⟨?_, ihrest⟩
    exact .tag (mem_standardTags_of_get? hindex) (admits_select _ _ _)
      (isStandard_ofSiblings ihchildren)

/-- The standard engine compiles with the definitions of the built-in libraries: whether these are
    loaded for it or not, no other ones come into it. -/
theorem compile_standard (markup : String) : (Engine.standard.compile markup).1 =
    standardIndex.compile (bracketParser defaultLimit) markup := by
  show ((Document.compile (bracketParser defaultLimit) markup).run .builtin).1 = _
  cases htag : (bracketParser defaultLimit markup).any hasTag with
  | true =>
    rw [consults_compile htag, Registry.run_ensureLoaded (Or.inl rfl)]
    rfl
  | false => rw [ignores_compile htag .builtin standardIndex]

/-- **The standard engine builds standard documents.** -/
theorem isStandard_of_compile {markup : String} {tree : Tree}
    (h : (Engine.standard.compile markup).1 = .ok tree) : tree.IsStandard := by
  rw [compile_standard, Index.compile] at h
  split at h
  case h_1 node nodes _ =>
    obtain ⟨trees, hnodes, h⟩ := exists_of_bind_ok h
    cases h
    exact isStandard_ofSiblings (isStandard_of_builds (builds_of_buildNodes hnodes))
  case h_2 => cases h

/-! ## Their HTML -/

mutual

/-- The HTML of a document with built-in tags. -/
def Tree.html : Tree → String
  | .literal text => (Html.literal text).text
  | .block children => htmls children
  | .tag d args contents => tagHtml d.name args contents.plainText contents.html

/-- The HTML of documents, one after another. -/
def htmls : List Tree → String
  | [] => ""
  | tree :: trees => tree.html ++ htmls trees

end

theorem htmls_eq_join (trees : List Tree) : htmls trees = String.join (trees.map Tree.html) := by
  induction trees with
  | nil => rfl
  | cons tree trees ih => rw [htmls, ih, List.map_cons, String.join_cons]

theorem join_html (trees : List Tree) :
    Safe.join (trees.map fun tree => ⟨tree.html⟩) = ⟨htmls trees⟩ := by
  have htext : (Safe.join (trees.map fun tree => ⟨tree.html⟩)).text = htmls trees := by
    rw [text_join, List.map_map, htmls_eq_join]
    rfl
  rw [← htext]

/-! ## Rendering them -/

/-- Templates are kept only as the built-in shelf gives them. -/
def Kept (store : Store .standard) : Prop :=
  ∀ name template files, store.get? name = some template →
    Language.standard.ofAnswer name (Shelf.standard.load files name) = .ok template

/-- A stage on which no name is bound and no foreign template is kept. -/
structure Stage.IsStandard (stage : Stage .standard Files) : Prop where
  unbound : stage.context.flatten = .empty
  kept : Kept stage.store

theorem isStandard_inside {stage : Stage .standard Files} (h : stage.IsStandard) :
    stage.inside.IsStandard :=
  ⟨h.unbound, h.kept⟩

theorem fetch_standard {store : Store .standard} (h : Kept store) (files : Files) {name : String}
    {template : Compiled}
    (hload : Language.standard.ofAnswer name (Shelf.standard.load files name) = .ok template) :
    ∃ store', store.fetch (shelfSource .standard) name files = (.ok template, store', files) ∧
      Kept store' := by
  rw [Store.fetch]
  cases hget : store.get? name with
  | some kept =>
    -- what is kept under the name was given by the shelf, which has not changed its mind
    have heq := (h name kept files hget).symm.trans hload
    cases heq
    exact ⟨store, rfl, h⟩
  | none =>
    refine ⟨store.insert name template, ?_, ?_⟩
    · simp only [shelfSource, hload]
    · intro other kept files' hkept
      rw [Dict.get?_insert] at hkept
      split at hkept
      case isTrue hname =>
        cases hkept
        rw [hname, load_standard_congr files' files, hload]
      case isFalse => exact h other kept files' hkept

theorem empty_overlay (frame : Frame) : Dict.empty.overlay frame = frame := by
  apply Dict.ext_get?
  intro key
  rw [Dict.get?_overlay, Dict.get?_empty, Option.or_none]

/-- What a step of rendering does on a standard stage: it gives this HTML and leaves the context
    as it was and the stage standard. -/
def Renders {α : Type} (action : RenderM .standard Files α) (result : α) : Prop :=
  ∀ stage : Stage .standard Files, stage.IsStandard → ∃ stage',
    action.run stage = (.ok result, stage') ∧ stage'.IsStandard ∧ stage'.context = stage.context

theorem renderAll_standard {trees : List Tree}
    (h : ∀ tree ∈ trees, Renders (tree.render (shelfSource .standard)) ⟨tree.html⟩) :
    Renders (renderAll (shelfSource .standard) trees) (trees.map fun tree => ⟨tree.html⟩) := by
  induction trees with
  | nil =>
    intro stage hstage
    rw [renderAll]
    exact ⟨stage, rfl, hstage, rfl⟩
  | cons tree trees ih =>
    intro stage hstage
    obtain ⟨between, htree, hbetween, hcontext⟩ := h tree List.mem_cons_self stage hstage
    obtain ⟨stage', htrees, hstage', hcontext'⟩ :=
      ih (fun other hmem => h other (List.mem_cons_of_mem tree hmem)) between hbetween
    refine ⟨stage', ?_, hstage', hcontext'.trans hcontext⟩
    rw [renderAll, run_bind_ok htree, run_bind_ok htrees]
    rfl

/-- **A standard document renders as its HTML**, on every standard stage. -/
theorem render_standard {tree : Tree} (h : tree.IsStandard) :
    Renders (tree.render (shelfSource .standard)) ⟨tree.html⟩ := by
  induction h with
  | literal text =>
    intro stage hstage
    rw [Tree.render, Tree.html]
    exact ⟨stage, rfl, hstage, rfl⟩
  | @block children _ ih =>
    intro stage hstage
    obtain ⟨stage', hrun, hstage', hcontext⟩ := renderAll_standard ih stage hstage
    refine ⟨stage', ?_, hstage', hcontext⟩
    rw [Tree.render, run_bind_ok hrun, join_html, Tree.html]
    rfl
  | @tag d args contents hd hargs _ ih =>
    intro stage hstage
    obtain ⟨stage₁, hcontents, hstage₁, hcontext⟩ := ih stage.inside (isStandard_inside hstage)
    obtain ⟨frame, parts, hhook, hparts, heval⟩ :=
      shows_of_mem hd (occurrence d args contents) hargs contents.html stage.inside.context.below
    obtain ⟨store, hfetch, hkept⟩ :=
      fetch_standard hstage₁.kept stage₁.world (ofAnswer_builtin stage₁.world hparts)
    -- nothing shows from outside, so the template sees the tag's own frame and no more
    have heval : Compiled.eval ⟨true, parts⟩ (stage.context.flatten.overlay frame) =
        .ok ⟨tagHtml d.name args contents.plainText contents.html⟩ := by
      rw [hstage.unbound, empty_overlay, Compiled.eval, heval, text_occurrence]
      rfl
    have hfollow := Store.follow_applyNamed hfetch (stage.context.flatten.overlay frame)
    rw [Store.follow, heval] at hfollow
    obtain ⟨notes, hrun⟩ := run_render_tag hcontents hcontext hhook hfollow
    refine ⟨⟨stage.context, store, stage₁.world, notes⟩, ?_, ⟨hstage.unbound, hkept⟩, rfl⟩
    rw [hrun, Tree.html]

/-- What is reached in rendering a standard document is itself a standard document, on a standard
    stage. -/
theorem isStandard_of_reaches {tree node : Tree} {stage stage' : Stage .standard Files}
    (hreach : Reaches (shelfSource .standard) tree stage node stage') (htree : tree.IsStandard)
    (hstage : stage.IsStandard) : node.IsStandard ∧ stage'.IsStandard := by
  induction hreach with
  | here => exact ⟨htree, hstage⟩
  | child hbefore _ ih =>
    cases htree with
    | block h =>
      -- the siblings before the child leave a standard stage to it
      obtain ⟨between, hrun, hbetween, -⟩ := renderAll_standard
        (fun tree hmem => render_standard (h tree (List.mem_append_left _ hmem))) _ hstage
      rw [hbefore] at hrun
      cases hrun
      exact ih (h _ (List.mem_append_right _ List.mem_cons_self)) hbetween
  | contents _ ih =>
    cases htree with
    | tag _ _ hcontents => exact ih hcontents (isStandard_inside hstage)

/-- Every part of a standard document is reached. -/
theorem exists_reaches {tree node : Tree} (hpart : node.PartOf tree) (htree : tree.IsStandard)
    {stage : Stage .standard Files} (hstage : stage.IsStandard) :
    ∃ stage', Reaches (shelfSource .standard) tree stage node stage' := by
  induction hpart generalizing stage with
  | refl => exact ⟨stage, .here⟩
  | child hmem _ ih =>
    obtain ⟨before, after, rfl⟩ := List.append_of_mem hmem
    cases htree with
    | block h =>
      obtain ⟨between, hbefore, hbetween, -⟩ := renderAll_standard
        (fun tree hmem => render_standard (h tree (List.mem_append_left _ hmem))) stage hstage
      obtain ⟨stage', hchild⟩ := ih (h _ hmem) hbetween
      exact ⟨stage', .child hbefore hchild⟩
  | contents _ ih =>
    cases htree with
    | tag _ _ hcontents =>
      obtain ⟨stage', hreach⟩ := ih hcontents (isStandard_inside hstage)
      exact ⟨stage', .contents hreach⟩

/-! ## The engine -/

/-- The stage on which the standard engine renders. -/
def startStage : Stage .standard Files :=
  ⟨.empty, .empty, noFiles, []⟩

theorem isStandard_startStage : startStage.IsStandard :=
  ⟨rfl, fun _ _ _ h => nomatch h⟩

/-- **Markup that compiles has the HTML of its document.** -/
theorem toHtml_of_compile {markup : String} {tree : Tree}
    (h : (Engine.standard.compile markup).1 = .ok tree) : toHtml markup = .ok ⟨tree.html⟩ := by
  obtain ⟨stage, hrun, -, -⟩ := render_standard (isStandard_of_compile h) _ isStandard_startStage
  -- compiling changes the registry alone, so the tree is rendered by the standard shelf
  let engine := (Engine.standard.compile markup).2
  have hcompile : Engine.standard.compile markup = (.ok tree, engine) := Prod.ext h rfl
  have hrender : engine.renderTree noFiles tree =
      (.ok ⟨tree.html⟩, { engine with store := stage.store }) := by
    let done := (tree.render (shelfSource .standard)).run startStage
    have heq : engine.renderTree noFiles tree =
        (done.1, { engine with store := done.2.store }) := rfl
    rw [heq, show done = _ from hrun]
  rw [toHtml, Engine.render, hcompile]
  simp only [hrender]

theorem toHtml_of_compile_error {markup : String} {e : BuildError}
    (h : (Engine.standard.compile markup).1 = .error e) : toHtml markup = .error (.build e) := by
  have hcompile : Engine.standard.compile markup = (.error e, (Engine.standard.compile markup).2) :=
    Prod.ext h rfl
  rw [toHtml, Engine.render, hcompile]

/-- Only markup that compiles has HTML. -/
theorem exists_of_toHtml_ok {markup : String} {html : Safe} (h : toHtml markup = .ok html) :
    ∃ tree, (Engine.standard.compile markup).1 = .ok tree ∧ html = ⟨tree.html⟩ := by
  cases hcompile : (Engine.standard.compile markup).1 with
  | error e =>
    rw [toHtml_of_compile_error hcompile] at h
    cases h
  | ok tree => exact ⟨tree, rfl, Except.ok.inj (h.symm.trans (toHtml_of_compile hcompile))⟩

end Document
end BracketMark
