import Mathlib
import BracketMark.Proofs.Document.Requests
import BracketMark.Proofs.Document.Run
import BracketMark.Proofs.Markup.Residue
import BracketMark.Proofs.Tag.Standard

/-!
# What a document keeps of its forest

A document that is built has the shape of the forest it is built of, but for its blocks, which
only hold siblings together.  So take the blocks away (`Tree.outline`): what is left has the
literals of the forest, and for each of its tags the definition of that name, with the arguments
that the definition takes (`Mirrors`).  And the blocks are as few as they can be
(`Tree.Collapsed`).

For a definition to be of the name that it is looked up by, the index has to keep each under its
own name.  An index comes of loading libraries and of nothing else, so every registry has such an
index or none (`namesOwn_serve`).
-/

namespace BracketMark

open Markup Tag Text

/-! ## Indexes that keep definitions under their names -/

namespace Tag

def Index.NamesOwn (index : Index) : Prop :=
  ∀ name definition, index.get? name = some definition → definition.name = name

theorem namesOwn_addLibrary {index : Index} (h : index.NamesOwn) (library : Library) :
    (index.addLibrary library).NamesOwn := by
  intro name definition hget
  rw [get?_addLibrary, Option.or_eq_some_iff] at hget
  rcases hget with hfound | ⟨-, hget⟩
  · have hname := List.find?_some hfound
    exact beq_iff_eq.1 hname
  · exact h name definition hget

theorem namesOwn_ofLibraries (loaded : List Library) : (Index.ofLibraries loaded).NamesOwn := by
  have hempty : Index.NamesOwn .empty := by
    intro name definition hget
    cases hget
  have hall (index : Index) (h : index.NamesOwn) :
      (loaded.foldl Index.addLibrary index).NamesOwn := by
    induction loaded generalizing index with
    | nil => exact h
    | cons library loaded ih => exact ih _ (namesOwn_addLibrary h library)
  exact hall .empty hempty

namespace Registry

/-- The definitions that are loaded: none before there is an index. -/
def known (registry : Registry) : Index :=
  registry.index.getD .empty

def NamesOwn (registry : Registry) : Prop :=
  registry.known.NamesOwn

theorem namesOwn_new (catalog : Catalog) (libraries : List String) :
    (new catalog libraries).NamesOwn :=
  namesOwn_ofLibraries []

theorem namesOwn_ensureLoaded {registry : Registry} (h : registry.NamesOwn) :
    (ensureLoaded.run registry).2.NamesOwn := by
  cases hindex : registry.index with
  | some index =>
    rw [run_ensureLoaded_of_index hindex]
    exact h
  | none =>
    obtain ⟨made, result, -, hrun⟩ := run_ensureLoaded_of_unloaded hindex
    rw [hrun]
    cases result with
    | ok loaded => exact namesOwn_ofLibraries loaded
    | error e => exact namesOwn_ofLibraries []

end Registry
end Tag

namespace Document

open Registry

theorem namesOwn_perform {registry : Registry} (h : registry.NamesOwn) (request : Request) :
    (request.perform.run registry).2.NamesOwn := by
  by_cases hloaded : request = .isLoaded
  · subst hloaded
    exact h
  · cases hneeds : request.needsIndex with
    | true =>
      rw [consults_perform hneeds registry]
      exact namesOwn_ensureLoaded h
    | false =>
      rw [ignores_perform hneeds hloaded registry .empty]
      exact h

theorem namesOwn_serve {registry : Registry} (h : registry.NamesOwn) (requests : List Request) :
    (serve requests registry).2.NamesOwn := by
  induction requests generalizing registry with
  | nil => exact h
  | cons request requests ih => exact ih (namesOwn_perform h request)

/-- A registry that has built a forest has built it with the definitions that it has then. -/
theorem build_known {registry next : Registry} {forest : Forest} {tree : Tree}
    (h : (build forest).run registry = (.ok tree, next)) : next.known.build forest = .ok tree := by
  cases htag : hasTag forest with
  | true =>
    rw [consults_build htag registry] at h
    match hload : ensureLoaded.run registry with
    | (.error e, unloaded) =>
      rw [hload] at h
      cases h
    | (.ok index, loaded) =>
      rw [hload] at h
      obtain ⟨hbuild, rfl⟩ := Prod.mk.inj h
      rw [known, index_of_run_ensureLoaded hload]
      exact hbuild
  | false =>
    have hbuild := (ignores_build htag registry next.known).symm.trans h
    exact (Prod.mk.inj hbuild).1

/-! ## Outlines -/

/-- A piece of a document without blocks. -/
inductive Outline where
  | literal (text : String)
  | tag (definition : Definition) (args : Arguments) (contents : List Outline)

mutual

/-- A document with its blocks taken away. -/
def Tree.outline : Tree → List Outline
  | .literal text => [.literal text]
  | .block children => outlines children
  | .tag definition args contents => [.tag definition args contents.outline]

def outlines : List Tree → List Outline
  | [] => []
  | tree :: trees => tree.outline ++ outlines trees

end

theorem outline_ofSiblings (trees : List Tree) : (Tree.ofSiblings trees).outline = outlines trees := by
  rw [Tree.ofSiblings.eq_def]
  split
  case h_1 tree => simp [outlines]
  case h_2 => simp [Tree.outline]

/-- What a tag with this contract holds of what its opening gives: the argument or the keyword
    arguments, whichever it takes, if there are any, and nothing else. -/
structure Accepts (contract : Contract) (opening : Opening) (args : Arguments) : Prop where
  positional : ∀ arg, args = .positional arg ↔
    contract = .positional ∧ opening.arg = some arg ∧ arg ≠ ""
  keywords : ∀ kwargs, args = .keywords kwargs ↔
    contract = .keywords ∧ opening.kwargs = kwargs ∧ kwargs ≠ .empty

theorem accepts_select (contract : Contract) (opening : Opening) :
    Accepts contract opening (.select contract opening.arg opening.kwargs) := by
  unfold Arguments.select
  split
  case h_1 arg harg =>
    by_cases hempty : arg = ""
    · constructor <;> simp [harg, hempty]
    · constructor
      · intro other
        rw [if_neg hempty, harg]
        constructor
        · rintro ⟨⟩
          exact ⟨rfl, rfl, hempty⟩
        · rintro ⟨-, ⟨⟩, -⟩
          rfl
      · simp [hempty]
  case h_2 =>
    by_cases hempty : opening.kwargs = .empty
    · rw [if_pos (Dict.isEmpty_iff.2 hempty)]
      constructor
      · simp
      · simp [hempty, eq_comm]
    · rw [if_neg fun h => hempty (Dict.isEmpty_iff.1 h)]
      constructor
      · simp
      · intro kwargs
        constructor
        · rintro ⟨⟩
          exact ⟨rfl, rfl, hempty⟩
        · rintro ⟨-, rfl, -⟩
          rfl
  case h_3 hkeywords hpositional =>
    constructor
    · intro arg
      constructor
      · rintro ⟨⟩
      · rintro ⟨hcontract, harg, -⟩
        exact (hpositional arg hcontract harg).elim
    · intro kwargs
      constructor
      · rintro ⟨⟩
      · rintro ⟨hcontract, -, -⟩
        exact (hkeywords hcontract).elim

/-- `Mirrors index outline forest`: the outline is that of the forest, with the definitions of the
    index for the names of the forest. -/
inductive Mirrors (index : Index) : List Outline → Forest → Prop
  | nil : Mirrors index [] []
  | literal {text : String} {outline : List Outline} {forest : Forest}
      (hrest : Mirrors index outline forest) :
      Mirrors index (.literal text :: outline) (.literal text :: forest)
  | tag {definition : Definition} {args : Arguments} {opening : Opening}
      {inner outline : List Outline} {children forest : Forest}
      (hindex : index.get? (foldCase opening.name) = some definition)
      (hname : definition.name = foldCase opening.name)
      (hargs : Accepts definition.contract opening args)
      (hinner : Mirrors index inner children) (hrest : Mirrors index outline forest) :
      Mirrors index (.tag definition args inner :: outline) (.tagged opening children :: forest)

theorem mirrors_of_builds {index : Index} (hindex : index.NamesOwn) {trees : List Tree}
    {nodes : List Node} (h : Builds index trees nodes) : Mirrors index (outlines trees) nodes := by
  induction h with
  | nil => exact .nil
  | literal _ ih => exact .literal ih
  | @tagged definition opening _ _ _ _ hget _ _ ihchildren ihrest =>
    rw [← outline_ofSiblings] at ihchildren
    exact .tag hget (hindex _ _ hget) (accepts_select definition.contract opening) ihchildren ihrest

/-! ## Blocks -/

/-- No block has a lone child, nor a block among its children. -/
def Tree.Collapsed (tree : Tree) : Prop :=
  ∀ children, (Tree.block children).PartOf tree →
    children.length ≠ 1 ∧ ∀ child ∈ children, child.block? = none

theorem collapsed_ofSiblings {trees : List Tree}
    (h : ∀ tree ∈ trees, tree.block? = none ∧ tree.Collapsed) :
    (Tree.ofSiblings trees).Collapsed := by
  rw [Tree.ofSiblings.eq_def]
  split
  case h_1 tree => exact (h tree List.mem_cons_self).2
  case h_2 hmany =>
    intro children hpart
    cases hpart with
    | refl =>
      refine ⟨fun hlength => ?_, fun tree hmem => (h tree hmem).1⟩
      obtain ⟨tree, rfl⟩ := List.length_eq_one_iff.1 hlength
      exact hmany tree rfl
    | child hmem hchild => exact (h _ hmem).2 children hchild

theorem collapsed_of_builds {index : Index} {trees : List Tree} {nodes : List Node}
    (h : Builds index trees nodes) : ∀ tree ∈ trees, tree.block? = none ∧ tree.Collapsed := by
  induction h with
  | nil => simp
  | literal _ ih =>
    intro tree hmem
    rcases List.mem_cons.1 hmem with rfl | hmem
    · refine ⟨rfl, ?_⟩
      intro children hpart
      cases hpart
    · exact ih tree hmem
  | tagged _ _ _ ihchildren ihrest =>
    intro tree hmem
    rcases List.mem_cons.1 hmem with rfl | hmem
    · refine ⟨rfl, ?_⟩
      intro children hpart
      cases hpart with
      | contents hcontents => exact collapsed_ofSiblings ihchildren children hcontents
    · exact ihrest tree hmem

/-! ## Texts -/

mutual

def Outline.texts : Outline → List String
  | .literal text => [text]
  | .tag _ _ contents => outlineTexts contents

/-- The literal texts of an outline, in order. -/
def outlineTexts : List Outline → List String
  | [] => []
  | piece :: outline => piece.texts ++ outlineTexts outline

end

theorem outlineTexts_append (outline more : List Outline) :
    outlineTexts (outline ++ more) = outlineTexts outline ++ outlineTexts more := by
  induction outline with
  | nil => simp [outlineTexts]
  | cons piece outline ih => simp [outlineTexts, ih]

mutual

theorem plainText_eq_join (tree : Tree) :
    tree.plainText = String.join (outlineTexts tree.outline) := by
  match tree with
  | .literal text => simp [Tree.plainText, Tree.outline, outlineTexts, Outline.texts, String.join]
  | .block children => simp [Tree.plainText, Tree.outline, plainTexts_eq_join children]
  | .tag definition args contents =>
    simp [Tree.plainText, Tree.outline, outlineTexts, Outline.texts, plainText_eq_join contents]

theorem plainTexts_eq_join (trees : List Tree) :
    Tree.plainTexts trees = String.join (outlineTexts (outlines trees)) := by
  match trees with
  | [] => simp [Tree.plainTexts, outlines, outlineTexts, String.join]
  | tree :: trees =>
    simp [Tree.plainTexts, outlines, outlineTexts_append, plainText_eq_join tree,
      plainTexts_eq_join trees]

end

theorem Mirrors.texts_eq {index : Index} {outline : List Outline} {forest : Forest}
    (h : Mirrors index outline forest) : outlineTexts outline = literals forest := by
  induction h with
  | nil => rfl
  | literal _ ih => simp [outlineTexts, Outline.texts, literals, Node.literals, ih]
  | tag _ _ _ _ _ ihinner ihrest =>
    simp [outlineTexts, Outline.texts, literals, Node.literals, ihinner, ihrest]

/-! ## The whole document -/

/-- **A document mirrors its forest**, whatever the registry was asked for before.  Without its
    blocks it is the forest with the definitions of its tags; its blocks are as few as they can be;
    and its plain text is the literals of the forest, one after another. -/
theorem mirrors_of_build (catalog : Catalog) (libraries : List String) (requests : List Request)
    {forest : Forest} {tree : Tree} {next : Registry}
    (h : (build forest).run (serve requests (.new catalog libraries)).2 = (.ok tree, next)) :
    Mirrors next.known tree.outline forest ∧ tree.Collapsed ∧
      tree.plainText = String.join (literals forest) := by
  have hnames : next.NamesOwn := by
    have hserve := namesOwn_serve (namesOwn_new catalog libraries) requests
    have hbuild := namesOwn_perform hserve (.build forest)
    rw [Request.perform, run_bind_ok h] at hbuild
    exact hbuild
  obtain ⟨trees, hnodes, hsiblings⟩ := exists_of_bind_ok (build_known h)
  cases hsiblings
  have hbuilds := builds_of_buildNodes hnodes
  have hmirrors := mirrors_of_builds hnames hbuilds
  rw [← outline_ofSiblings] at hmirrors
  refine ⟨hmirrors, collapsed_ofSiblings (collapsed_of_builds hbuilds), ?_⟩
  rw [plainText_eq_join, hmirrors.texts_eq]

/-- A link with an image in it, given arguments of both kinds, and a bold text. -/
def mixedForest : Forest :=
  [.literal "a",
    .tagged ⟨"URL", some "http://x", .ofList [("k", "v")]⟩
      [.tagged ⟨"Img", some "y", .ofList [("alt", "z")]⟩ [], .literal "<"],
    .tagged ⟨"b", some "c", .empty⟩ [.literal "d"]]

def mixedTree : Tree :=
  .block [.literal "a",
    .tag Links.url (.positional "http://x")
      (.block [.tag Links.img (.keywords (.ofList [("alt", "z")])) (.block []), .literal "<"]),
    .tag Formatting.bold .none (.literal "d")]

theorem build_mixedForest :
    (build mixedForest).run (serve [] (.new .builtin defaultLibraries)).2 =
      (.ok mixedTree, loadedBuiltin) := by
  cbv

theorem mirrors_of_build_mixedForest :
    (build mixedForest).run (serve [] (.new .builtin defaultLibraries)).2 =
        (.ok mixedTree, loadedBuiltin) ∧
      Mirrors standardIndex mixedTree.outline mixedForest ∧ mixedTree.Collapsed ∧
        mixedTree.plainText = "a<d" := by
  obtain ⟨hmirrors, hcollapsed, htext⟩ :=
    mirrors_of_build .builtin defaultLibraries [] build_mixedForest
  exact ⟨build_mixedForest, hmirrors, hcollapsed, htext⟩

end Document
end BracketMark
