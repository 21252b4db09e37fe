import BracketMark.Document.Render
import BracketMark.Proofs.Document.Indexed
import BracketMark.Proofs.Html.Pieces

/-!
# Documents of literals

A document without tags is built without a look at the registry and rendered without a change to
the stage.  Its tree depends on how many literals there are, since a lone one stands for itself,
but what it shows does not (`render_ofSiblings`): that is each literal, one after another.
-/

namespace BracketMark
namespace Document

open Html Markup Tag Template

/-! ## Building -/

theorem hasTag_literals (texts : List String) : hasTag (texts.map Node.literal) = false := by
  simp [hasTag, Node.opening?]

theorem buildNodes_literals (index : Index) (texts : List String) :
    index.buildNodes (texts.map .literal) = .ok (texts.map .literal) := by
  induction texts with
  | nil => rw [List.map_nil, Index.buildNodes, List.map_nil]
  | cons text texts ih =>
    rw [List.map_cons, Index.buildNodes, Index.buildNode, ih, List.map_cons]
    rfl

/-- Literals are built by any registry, which is left as it is. -/
theorem run_build_literals (texts : List String) (registry : Registry) :
    (build (texts.map .literal)).run registry =
      (.ok (.ofSiblings (texts.map .literal)), registry) := by
  have hbuild : Index.build .empty (texts.map .literal) =
      .ok (.ofSiblings (texts.map .literal)) := by
    rw [Index.build, buildNodes_literals]
    rfl
  rw [ignores_build (hasTag_literals texts) registry .empty]
  exact Prod.ext hbuild rfl

/-! ## Rendering -/

variable {lang : Language} {σ : Type} {source : Source σ}

/-- Siblings show one after another, whether they make a block or one stands for itself. -/
theorem render_ofSiblings (trees : List Tree) :
    (Tree.ofSiblings trees).render source =
      (do return Safe.join (← renderAll source trees) : RenderM lang σ Safe) := by
  rw [Tree.ofSiblings.eq_def]
  split
  case h_1 tree =>
    have hjoin (html : Safe) : Safe.join [html] = html := by
      show Safe.mk ("" ++ html.text) = html
      rw [String.empty_append]
    simp [renderAll, hjoin]
  case h_2 => rw [Tree.render]

theorem run_renderAll_literals (texts : List String) (stage : Stage lang σ) :
    (renderAll source (texts.map .literal)).run stage = (.ok (texts.map Html.literal), stage) := by
  induction texts with
  | nil =>
    rw [List.map_nil, renderAll]
    rfl
  | cons text texts ih =>
    have htext : ((Tree.literal text).render source).run stage =
        (.ok (Html.literal text), stage) := by
      rw [Tree.render]
      rfl
    rw [List.map_cons, renderAll, run_bind_ok htext, run_bind_ok ih]
    rfl

/-- **Literals show as their escaped text.**  Literals in a row, empty ones and a lone one included,
    are built by any registry without loading anything; on any stage, which is left as it is, their
    tree shows each text escaped and its lines broken, one after another; and this is how the whole
    text shows exactly if no pair of a carriage return and a line feed is split between two of
    the literals. -/
theorem render_literals (texts : List String) :
    let tree := Tree.ofSiblings (texts.map .literal)
    let html := String.join (texts.map fun text => (Safe.escape text).lineBreaks.text)
    (∀ registry, (build (texts.map .literal)).run registry = (.ok tree, registry)) ∧
      (∀ {lang : Language} {σ : Type} (source : Source σ) (stage : Stage lang σ),
        (tree.render source).run stage = (.ok ⟨html⟩, stage)) ∧
      (html = (Safe.escape (String.join texts)).lineBreaks.text ↔
        ¬SplitsPair (texts.map String.toList)) := by
  intro tree html
  refine ⟨run_build_literals texts, fun source stage => ?_, join_literals_eq_iff texts⟩
  have hhtml : (Safe.join (texts.map Html.literal)).text = html := by
    rw [text_join, List.map_map]
    rfl
  rw [render_ofSiblings, run_bind_ok (run_renderAll_literals texts stage), ← hhtml]
  rfl

/-- A pair is split between the first and the last of three literals, and so it is two breaks. -/
example :
    String.join (["a\r", "", "\nb"].map fun text => (Html.literal text).text) = "a<br><br>b" ∧
      (Html.literal (String.join ["a\r", "", "\nb"])).text = "a<br>b" := by decide +kernel

end Document
end BracketMark
