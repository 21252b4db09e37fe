import BracketMark.Proofs.Document.Requests
import BracketMark.Proofs.Tag.Standard

/-!
# Which definition answers for a name

Libraries may export tags of the same name, and so may one library.  The index is filled in the
order of the libraries and of their exports, and a later definition replaces an earlier one.  So
write down all that the libraries export, one library after another and each of them once: the
index answers a name with the last definition of that name (`get?_ofLibraries`), and it lists one
definition for each name.

Loaders that answer once are enough for a registry to be loaded, whatever it has been asked for
before (`prepared_serve`), and then this is what it answers (`resolves_lastNamed`).
-/

namespace BracketMark

open Tag Text

namespace Tag

/-! ## The last of a name -/

/-- Of the definitions, this is the last one of that name. -/
def IsLastNamed (name : String) (definitions : List Definition) (d : Definition) : Prop :=
  ∃ before after, definitions = before ++ d :: after ∧ d.name = name ∧
    ∀ later ∈ after, later.name ≠ name

theorem find?_reverse_eq_some_iff {name : String} {definitions : List Definition}
    {d : Definition} :
    definitions.reverse.find? (·.name == name) = some d ↔ IsLastNamed name definitions d := by
  rw [List.find?_eq_some_iff_append, IsLastNamed]
  constructor
  · rintro ⟨hname, later, earlier, heq, hlater⟩
    refine ⟨earlier.reverse, later.reverse, ?_, beq_iff_eq.1 hname, ?_⟩
    · rw [← List.reverse_reverse definitions, heq]
      simp
    · intro other hother
      simpa using hlater other (List.mem_reverse.1 hother)
  · rintro ⟨before, after, rfl, hname, hafter⟩
    refine ⟨beq_iff_eq.2 hname, after.reverse, before.reverse, by simp, ?_⟩
    intro other hother
    simpa using hafter other (List.mem_reverse.1 hother)

/-- **The index answers with the last definition of a name** in what the libraries export. -/
theorem get?_ofLibraries (loaded : List Library) (name : String) :
    (Index.ofLibraries loaded).get? name =
      (loaded.flatMap (·.exports)).reverse.find? (·.name == name) := by
  have hall (index : Index) : (loaded.foldl Index.addLibrary index).get? name =
      ((loaded.flatMap (·.exports)).reverse.find? (·.name == name)).or (index.get? name) := by
    induction loaded generalizing index with
    | nil => rfl
    | cons library loaded ih =>
      rw [List.foldl_cons, ih, get?_addLibrary, List.flatMap_cons, List.reverse_append,
        List.find?_append, Option.or_assoc]
  rw [Index.ofLibraries, hall, Dict.get?_empty, Option.or_none]

theorem get?_ofLibraries_eq_some_iff {loaded : List Library} {name : String} {d : Definition} :
    (Index.ofLibraries loaded).get? name = some d ↔
      IsLastNamed name (loaded.flatMap (·.exports)) d := by
  rw [get?_ofLibraries, find?_reverse_eq_some_iff]

theorem get?_ofLibraries_eq_none_iff {loaded : List Library} {name : String} :
    (Index.ofLibraries loaded).get? name = none ↔
      ∀ d ∈ loaded.flatMap (·.exports), d.name ≠ name := by
  rw [get?_ofLibraries, List.find?_eq_none]
  simp

/-! ## Answers of the index -/

section

variable {index : Index} {name : String} {d : Definition}

theorem Index.lookup_eq_error_iff :
    index.lookup name = .error (.unknownTag name) ↔ index.get? (foldCase name) = none := by
  rw [Index.lookup]
  cases index.get? (foldCase name) <;> simp

theorem Index.mem_values_iff : d ∈ index.values ↔ ∃ key, index.get? key = some d := by
  rw [Dict.values, List.mem_map]
  constructor
  · rintro ⟨⟨key, _⟩, hmem, rfl⟩
    exact ⟨key, (index.mem_toList_iff key _).1 hmem⟩
  · rintro ⟨key, hget⟩
    exact ⟨(key, d), (index.mem_toList_iff key d).2 hget, rfl⟩

/-- An index that keeps definitions under their own names lists them by name. -/
theorem Index.pairwise_values (hown : ∀ key d, index.get? key = some d → d.name = key) :
    index.values.Pairwise (fun d e => d.name < e.name) := by
  rw [Dict.values, List.pairwise_map]
  refine index.sorted.imp_of_mem fun {p q} hp hq hlt => ?_
  rw [hown p.1 p.2 ((index.mem_toList_iff p.1 p.2).1 hp),
    hown q.1 q.2 ((index.mem_toList_iff q.1 q.2).1 hq)]
  exact hlt

end

/-! ## Loaders that answer -/

section

variable {catalog : Catalog} {ids : List String} {library : String → Library}

theorem LoaderAnswers.unique {calls : List String} {id : String}
    {answer other : Except BuildError Library} (h : LoaderAnswers catalog calls id answer)
    (hother : LoaderAnswers catalog calls id other) : answer = other := by
  obtain ⟨loader, hloader, rfl⟩ := h
  obtain ⟨loader', hloader', rfl⟩ := hother
  rw [hloader] at hloader'
  cases hloader'
  rfl

theorem eq_map_of_loaded {calls : List String} {loaded : List Library}
    (hloads : ∀ id ∈ ids, LoaderAnswers catalog calls id (.ok (library id)))
    (h : List.Forall₂ (fun id library => LoaderAnswers catalog calls id (.ok library))
      ids loaded) : loaded = ids.map library := by
  induction h with
  | nil => rfl
  | @cons id found ids loaded hfound _ ih =>
    cases hfound.unique (hloads id List.mem_cons_self)
    rw [ih fun other hother => hloads other (List.mem_cons_of_mem id hother)]
    rfl

/-- An attempt is complete if all loaders answer. -/
theorem Attempt.eq_ok {calls made : List String} {result : Except BuildError (List Library)}
    (hloads : ∀ id ∈ ids, LoaderAnswers catalog calls id (.ok (library id)))
    (h : Attempt catalog calls ids made result) : result = .ok (ids.map library) := by
  cases h with
  | complete hloaded => rw [eq_map_of_loaded hloads hloaded]
  | failed hloaded hfails =>
    cases hfails.unique (hloads _ (List.mem_append_right _ List.mem_cons_self))
  | missing hloaded hmissing =>
    obtain ⟨loader, hloader, -⟩ := hloads _ (List.mem_append_right _ List.mem_cons_self)
    rw [hmissing] at hloader
    cases hloader

/-- A registry of these libraries: nothing is loaded yet, or all of them are. -/
def Registry.Prepared (catalog : Catalog) (ids : List String) (library : String → Library)
    (registry : Registry) : Prop :=
  registry = .new catalog ids ∨
    registry.index = some (.ofLibraries (ids.eraseDups.map library))

variable {registry : Registry}

/-- Such a registry has the same index for whoever asks first. -/
theorem Registry.Prepared.exists_loaded (h : registry.Prepared catalog ids library)
    (hloads : ∀ id ∈ ids, LoaderAnswers catalog [] id (.ok (library id))) :
    ∃ loaded, ensureLoaded.run registry =
      (.ok (.ofLibraries (ids.eraseDups.map library)), loaded) := by
  rcases h with rfl | hindex
  · have hunloaded : (Registry.new catalog ids).index = none := rfl
    obtain ⟨made, result, hattempt, hrun⟩ := run_ensureLoaded_of_unloaded hunloaded
    have hresult := hattempt.eq_ok fun id hid => hloads id (List.mem_eraseDups.1 hid)
    rw [hresult] at hrun
    exact ⟨_, hrun⟩
  · exact ⟨registry, run_ensureLoaded_of_index hindex⟩

end

end Tag

namespace Document

open Registry

section

variable {catalog : Catalog} {ids : List String} {library : String → Library}
  {registry : Registry}

theorem prepared_perform (hloads : ∀ id ∈ ids, LoaderAnswers catalog [] id (.ok (library id)))
    (h : registry.Prepared catalog ids library) (request : Request) :
    (request.perform.run registry).2.Prepared catalog ids library := by
  by_cases hloaded : request = .isLoaded
  · subst hloaded
    exact h
  · cases hneeds : request.needsIndex with
    | true =>
      obtain ⟨loaded, hload⟩ := h.exists_loaded hloads
      rw [consults_perform hneeds registry, hload]
      exact Or.inr (index_of_run_ensureLoaded hload)
    | false =>
      rw [ignores_perform hneeds hloaded registry .empty]
      exact h

theorem prepared_serve (hloads : ∀ id ∈ ids, LoaderAnswers catalog [] id (.ok (library id)))
    (h : registry.Prepared catalog ids library) (requests : List Request) :
    (serve requests registry).2.Prepared catalog ids library := by
  induction requests generalizing registry with
  | nil => exact h
  | cons request requests ih => exact ih (prepared_perform hloads h request)

/-- What consults a prepared registry gets its answer from the index of the libraries. -/
theorem result_of_consults {α : Type} {action : RegistryM α}
    {answer : Index → Except BuildError α} (hconsults : Consults action answer)
    (hloads : ∀ id ∈ ids, LoaderAnswers catalog [] id (.ok (library id)))
    (h : registry.Prepared catalog ids library) :
    (action.run registry).1 = answer (.ofLibraries (ids.eraseDups.map library)) := by
  obtain ⟨loaded, hload⟩ := h.exists_loaded hloads
  rw [hconsults registry, hload]
  rfl

end

/-- **A name is answered by its last export.**  The loaders of the configured libraries answer.
    Then, whatever a registry was asked for before, it finds for a name in any case of letters the
    last definition of that name in what the libraries export, one after another and each of them
    once, at its first place; it finds none if there is none; and it lists by name one definition
    for each name that is exported, which is the one that it finds for it. -/
theorem resolves_lastNamed (catalog : Catalog) (ids : List String) (library : String → Library)
    (hloads : ∀ id ∈ ids, LoaderAnswers catalog [] id (.ok (library id)))
    (requests : List Request) :
    let registry := (serve requests (.new catalog ids)).2
    let exported := ids.eraseDups.flatMap fun id => (library id).exports
    (∀ name,
      (∀ d, ((lookup name).run registry).1 = .ok d ↔ IsLastNamed (foldCase name) exported d) ∧
      (((lookup name).run registry).1 = .error (.unknownTag name) ↔
        ∀ d ∈ exported, d.name ≠ foldCase name)) ∧
    ∃ listed, (definitions.run registry).1 = .ok listed ∧
      listed.Pairwise (fun d e => d.name < e.name) ∧
      (∀ name, (∃ d ∈ listed, d.name = name) ↔ ∃ d ∈ exported, d.name = name) ∧
      ∀ d ∈ listed, ((lookup d.name).run registry).1 = .ok d := by
  intro registry exported
  have hprepared : registry.Prepared catalog ids library :=
    prepared_serve hloads (Or.inl rfl) requests
  have hlookup (name : String) := result_of_consults (consults_lookup name) hloads hprepared
  have hexported : (ids.eraseDups.map library).flatMap (·.exports) = exported :=
    List.flatMap_map ..
  have hown (key : String) (d : Definition)
      (hget : (Index.ofLibraries (ids.eraseDups.map library)).get? key = some d) :
      d.name = key := by
    obtain ⟨before, after, -, hname, -⟩ := get?_ofLibraries_eq_some_iff.1 hget
    exact hname
  refine ⟨fun name => ⟨fun d => ?_, ?_⟩, _,
    result_of_consults consults_definitions hloads hprepared, Index.pairwise_values hown,
    fun name => ?_, fun d hd => ?_⟩
  · rw [hlookup, Index.lookup_eq_ok_iff, get?_ofLibraries_eq_some_iff, hexported]
  · rw [hlookup, Index.lookup_eq_error_iff, get?_ofLibraries_eq_none_iff, hexported]
  · constructor
    · rintro ⟨d, hd, rfl⟩
      obtain ⟨key, hget⟩ := Index.mem_values_iff.1 hd
      obtain ⟨before, after, heq, -, -⟩ := get?_ofLibraries_eq_some_iff.1 hget
      refine ⟨d, ?_, rfl⟩
      rw [← hexported, heq]
      exact List.mem_append_right before List.mem_cons_self
    · rintro ⟨d, hd, hname⟩
      -- the name is in the index, as it is exported at least once
      cases hget : (Index.ofLibraries (ids.eraseDups.map library)).get? name with
      | none =>
        rw [get?_ofLibraries_eq_none_iff, hexported] at hget
        exact absurd hname (hget d hd)
      | some found =>
        exact ⟨found, Index.mem_values_iff.2 ⟨name, hget⟩, hown name found hget⟩
  · obtain ⟨key, hget⟩ := Index.mem_values_iff.1 hd
    rw [hlookup, Index.lookup_eq_ok_iff, d.folded, hown key d hget]
    exact hget

/-- A tag without anything special about it but its arguments. -/
def zipTag (contract : Contract) : Definition :=
  ⟨"zip", contract, none, none, none, by decide, by decide⟩

/-- A library that exports one name twice, and a name that another library has. -/
def clashing : Library :=
  ⟨"extra", [zipTag .none, { Formatting.bold with contract := .positional }, zipTag .keywords]⟩

def clashingCatalog : Catalog :=
  Dict.ofList [("text", fun _ => .ok Formatting.library), ("extra", fun _ => .ok clashing)]

def clashingLibrary (id : String) : Library :=
  if id = "extra" then clashing else Formatting.library

/-- The library that is listed twice stands at its first place, so the other one replaces its
    tag. -/
theorem resolves_lastNamed_clashing :
    let ids := ["extra", "text", "extra"]
    let registry := (serve [.isLoaded, .lookup "b"] (.new clashingCatalog ids)).2
    (∀ id ∈ ids, LoaderAnswers clashingCatalog [] id (.ok (clashingLibrary id))) ∧
      ((lookup "ZIP").run registry).1 = .ok (zipTag .keywords) ∧
      ((lookup "b").run registry).1 = .ok Formatting.bold ∧
      ((lookup "Quote").run registry).1 = .error (.unknownTag "Quote") ∧
      ∃ listed, (definitions.run registry).1 = .ok listed ∧ ∃ d ∈ listed, d.name = "zip" := by
  intro ids registry
  have hloads : ∀ id ∈ ids, LoaderAnswers clashingCatalog [] id (.ok (clashingLibrary id)) := by
    intro id hid
    simp only [ids, List.mem_cons, List.not_mem_nil, or_false] at hid
    rcases hid with rfl | rfl | rfl
    · exact ⟨_, rfl, rfl⟩
    · exact ⟨_, rfl, rfl⟩
    · exact ⟨_, rfl, rfl⟩
  obtain ⟨hlookup, listed, hlisted, -, hnames, -⟩ :=
    resolves_lastNamed clashingCatalog ids clashingLibrary hloads [.isLoaded, .lookup "b"]
  have hexported : (ids.eraseDups.flatMap fun id => (clashingLibrary id).exports) =
      clashing.exports ++ Formatting.library.exports := rfl
  rw [hexported] at hlookup hnames
  refine ⟨hloads, ?_, ?_, ?_, listed, hlisted,
    (hnames "zip").2 ⟨zipTag .none, by simp [clashing], rfl⟩⟩
  · refine ((hlookup "ZIP").1 _).2
      ⟨[zipTag .none, { Formatting.bold with contract := .positional }],
        Formatting.library.exports, rfl, by decide +kernel, by decide +kernel⟩
  · refine ((hlookup "b").1 _).2 ⟨clashing.exports, Formatting.library.exports.tail, rfl,
      by decide +kernel, by decide +kernel⟩
  · exact (hlookup "Quote").2.2 (by decide +kernel)

end Document
end BracketMark
