import Mathlib
import BracketMark.Proofs.Document.Indexed
import BracketMark.Proofs.Markup.Names
import BracketMark.Proofs.Tag.Standard

/-!
# Tags that are not found

Building is all or nothing.  It meets the tags in the order of the text, a tag before those inside
it, so what comes of it is what comes of asking the index for their names in that order (`Asks`),
and asking for some names and then for others is asking for all of them (`Asks.bind`).

With the loading of the libraries this is all that building can do (`run_build`): text alone loads
nothing; a load that fails is the error, whatever the names are; and else the first name that
the index lacks is.
-/

namespace BracketMark

open Document Markup Tag Text

/-! ## Asking an index -/

namespace Tag

/-- Whether an index has no definition for a name, whatever the case of it. -/
def Index.lacks (index : Index) (name : String) : Bool :=
  (index.get? (foldCase name)).isNone

variable {α β : Type} {index : Index} {names more : List String}

/-- There is a result if the index has all of the names; the first that it lacks is the error. -/
def Asks (index : Index) (names : List String) (result : Except BuildError α) : Prop :=
  match names.find? index.lacks with
  | none => ∃ a, result = .ok a
  | some name => result = .error (.unknownTag name)

theorem asks_nil (a : α) : Asks index [] (.ok a) := ⟨a, rfl⟩

theorem Asks.bind {result : Except BuildError α} {rest : α → Except BuildError β}
    (h : Asks index names result) (hrest : ∀ a, Asks index more (rest a)) :
    Asks index (names ++ more) (result >>= rest) := by
  rw [Asks] at h
  rw [Asks, List.find?_append]
  split at h
  case h_1 hnone =>
    obtain ⟨a, rfl⟩ := h
    rw [hnone, Option.none_or]
    exact hrest a
  case h_2 name hname =>
    rw [hname, Option.some_or, h]
    rfl

/-- What is made of a result asks for nothing more. -/
theorem Asks.map {result : Except BuildError α} (h : Asks index names result) (f : α → β) :
    Asks index names (do return f (← result)) := by
  rw [← List.append_nil names]
  exact h.bind fun a => asks_nil (f a)

/-- There is a result exactly if none of the names is lacking. -/
theorem Asks.exists_ok_iff {result : Except BuildError α} (h : Asks index names result) :
    (∃ a, result = .ok a) ↔ ∀ name ∈ names, index.lacks name = false := by
  rw [Asks] at h
  split at h
  case h_1 hnone =>
    refine iff_of_true h ?_
    intro name hmem
    exact Bool.eq_false_iff.2 (List.find?_eq_none.1 hnone name hmem)
  case h_2 name hname =>
    rw [h]
    refine iff_of_false nofun ?_
    intro hall
    have hlacks := hall name (List.mem_of_find?_eq_some hname)
    rw [List.find?_some hname] at hlacks
    cases hlacks

/-- The error is the first name that is lacking. -/
theorem Asks.eq_error {result : Except BuildError α} {before after : List String} {name : String}
    (h : Asks index (before ++ name :: after) result)
    (hbefore : ∀ earlier ∈ before, index.lacks earlier = false)
    (hname : index.lacks name = true) : result = .error (.unknownTag name) := by
  have hnone : before.find? index.lacks = none := by
    apply List.find?_eq_none.2
    intro earlier hmem
    rw [hbefore earlier hmem]
    exact Bool.false_ne_true
  rw [Asks, List.find?_append, hnone, Option.none_or, List.find?_cons_of_pos hname] at h
  exact h

theorem asks_lookup (index : Index) (name : String) : Asks index [name] (index.lookup name) := by
  rw [Asks, Index.lookup, List.find?_cons, Index.lacks]
  cases index.get? (foldCase name) with
  | some d => exact ⟨d, rfl⟩
  | none => rfl

/-! ## Building -/

mutual

theorem asks_buildNode (index : Index) (node : Node) :
    Asks index node.tagNames (index.buildNode node) := by
  match node with
  | .literal text =>
    rw [Node.tagNames, Index.buildNode]
    exact asks_nil _
  | .tagged opening children =>
    rw [Node.tagNames, Index.buildNode, ← List.singleton_append]
    exact (asks_lookup index opening.name).bind fun d => (asks_buildNodes index children).map _

/-- **Building asks for the tags in the order of the text**, a tag before those inside it. -/
theorem asks_buildNodes (index : Index) (nodes : List Node) :
    Asks index (tagNames nodes) (index.buildNodes nodes) := by
  match nodes with
  | [] =>
    rw [tagNames, Index.buildNodes]
    exact asks_nil _
  | node :: nodes =>
    rw [tagNames, Index.buildNodes]
    exact (asks_buildNode index node).bind fun tree => (asks_buildNodes index nodes).map _

end

end Tag

/-! ## Loading and building -/

namespace Document

open Registry

theorem tagNames_eq_nil_iff {nodes : List Node} : tagNames nodes = [] ↔ hasTag nodes = false := by
  induction nodes with
  | nil => exact iff_of_true rfl rfl
  | cons node nodes ih =>
    cases node with
    | literal text => exact ih
    | tagged opening children => exact iff_of_false nofun nofun

theorem asks_build (index : Index) (forest : Forest) :
    Asks index (tagNames forest) (index.build forest) :=
  (asks_buildNodes index forest).map Tree.ofSiblings

/-- **Building is all or nothing**, for any registry.  A forest without tags is built without
    loading anything.  Any other has the libraries loaded first: if that fails, this is the error; and
    if it does not, the forest is built exactly if the index has every name in it, in any case of
    letters, and the first that it lacks is the error, as it was written. -/
theorem run_build (registry : Registry) (forest : Forest) :
    (tagNames forest = [] → ∃ tree, (build forest).run registry = (.ok tree, registry)) ∧
    (tagNames forest ≠ [] → ∀ e unloaded, ensureLoaded.run registry = (.error e, unloaded) →
      (build forest).run registry = (.error e, unloaded)) ∧
    (tagNames forest ≠ [] → ∀ index loaded, ensureLoaded.run registry = (.ok index, loaded) →
      ((∃ tree, (build forest).run registry = (.ok tree, loaded)) ↔
        ∀ name ∈ tagNames forest, index.lacks name = false) ∧
      ∀ before name after, tagNames forest = before ++ name :: after →
        (∀ earlier ∈ before, index.lacks earlier = false) → index.lacks name = true →
          (build forest).run registry = (.error (.unknownTag name), loaded)) := by
  have hconsults (htags : tagNames forest ≠ []) : Consults (build forest) (·.build forest) := by
    apply consults_build
    rw [← Bool.not_eq_false]
    exact fun hnone => htags (tagNames_eq_nil_iff.2 hnone)
  refine ⟨fun hnone => ?_, fun htags e unloaded hload => ?_, fun htags index loaded hload => ?_⟩
  · have hasks := asks_build .empty forest
    rw [hnone] at hasks
    obtain ⟨tree, htree⟩ := hasks
    refine ⟨tree, ?_⟩
    rw [ignores_build (tagNames_eq_nil_iff.1 hnone) registry .empty]
    exact congrArg (·, registry) htree
  · rw [hconsults htags registry, hload]
    rfl
  · have hrun : (build forest).run registry = (index.build forest, loaded) := by
      rw [hconsults htags registry, hload]
      rfl
    have hasks := asks_build index forest
    rw [hrun]
    constructor
    · rw [← hasks.exists_ok_iff]
      constructor
      · rintro ⟨tree, htree⟩
        exact ⟨tree, (Prod.mk.inj htree).1⟩
      · rintro ⟨tree, htree⟩
        exact ⟨tree, congrArg (·, loaded) htree⟩
    · intro before name after hnames hbefore hname
      rw [hnames] at hasks
      rw [hasks.eq_error hbefore hname]

/-- A tag is reported before the one inside it, although the one around it is found. -/
def strangeForest : Forest :=
  [.tagged ⟨"B", none, .empty⟩ [.tagged ⟨"Zap", none, .empty⟩ [.tagged ⟨"zip", none, .empty⟩ []]],
    .tagged ⟨"zop", none, .empty⟩ []]

/-- The libraries come first, and then the names in order. -/
theorem run_build_strangeForest :
    (ensureLoaded.run (.new .builtin ["text", "nope"])).1 = .error (.unknownLibrary "nope") ∧
      ((build strangeForest).run (.new .builtin ["text", "nope"])).1 =
        .error (.unknownLibrary "nope") ∧
      ensureLoaded.run builtin = (.ok standardIndex, loadedBuiltin) ∧
      (build strangeForest).run builtin = (.error (.unknownTag "Zap"), loadedBuiltin) ∧
      ∃ tree, (build [.literal "x"]).run builtin = (.ok tree, builtin) := by
  have htags : tagNames strangeForest ≠ [] := by decide
  have hfails : ensureLoaded.run (.new .builtin ["text", "nope"]) =
      (.error (.unknownLibrary "nope"), (new .builtin ["text", "nope"]).called ["text"]) := by
    cbv
  have hload : ensureLoaded.run builtin = (.ok standardIndex, loadedBuiltin) :=
    run_ensureLoaded (Or.inl rfl)
  have hfailed := (run_build (.new .builtin ["text", "nope"]) strangeForest).2.1 htags _ _ hfails
  have hfirst := ((run_build builtin strangeForest).2.2 htags _ _ hload).2 ["B"] "Zap"
    ["zip", "zop"] (by decide) (by decide +kernel) (by decide +kernel)
  refine ⟨by rw [hfails], by rw [hfailed], hload, hfirst, ?_⟩
  exact (run_build builtin [.literal "x"]).1 rfl

end Document
end BracketMark
