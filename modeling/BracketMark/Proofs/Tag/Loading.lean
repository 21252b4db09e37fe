import Mathlib.Data.List.Forall2
import BracketMark.Tag.Registry
import BracketMark.Proofs.Effects

/-!
# Loading the libraries

A registry that is not loaded makes an attempt when its index is needed.  An attempt is said here
without the registry (`Attempt`): which loaders it calls, in which order, and what comes of it.  It
always begins with the first identifier, so it owes nothing to an earlier attempt but the record
of the calls, which tells each loader how often it was called.

That `ensureLoaded` makes one attempt if it has to, and none if it has not, is
`Registry.run_ensureLoaded_of_unloaded` and `Registry.run_ensureLoaded_of_index`.
-/

namespace BracketMark
namespace Tag

/-! ## Attempts -/

/-- What the loader of an identifier answers after these calls, if there is one. -/
def LoaderAnswers (catalog : Catalog) (calls : List String) (id : String)
    (answer : Except BuildError Library) : Prop :=
  ∃ loader, catalog.get? id = some loader ∧ loader (calls.count id) = answer

/-- `Attempt catalog calls ids made result`: after these calls, an attempt to load the libraries of
    the identifiers calls the loaders `made`, and this comes of it. -/
inductive Attempt (catalog : Catalog) (calls : List String) :
    List String → List String → Except BuildError (List Library) → Prop
  /-- Every loader gives its library. -/
  | complete {ids : List String} {loaded : List Library}
      (hloaded : List.Forall₂ (fun id library => LoaderAnswers catalog calls id (.ok library))
        ids loaded) : Attempt catalog calls ids ids (.ok loaded)
  /-- A loader fails: its error is the result, and none behind it is called. -/
  | failed {before after : List String} {id : String} {loaded : List Library} {e : BuildError}
      (hloaded : List.Forall₂ (fun id library => LoaderAnswers catalog calls id (.ok library))
        before loaded) (hfails : LoaderAnswers catalog calls id (.error e)) :
      Attempt catalog calls (before ++ id :: after) (before ++ [id]) (.error e)
  /-- An identifier is not in the catalog, so it has no loader to call. -/
  | missing {before after : List String} {id : String} {loaded : List Library}
      (hloaded : List.Forall₂ (fun id library => LoaderAnswers catalog calls id (.ok library))
        before loaded) (hmissing : catalog.get? id = none) :
      Attempt catalog calls (before ++ id :: after) before (.error (.unknownLibrary id))

/-- The index of libraries that were loaded in this order. -/
def Index.ofLibraries (loaded : List Library) : Index :=
  loaded.foldl Index.addLibrary .empty

namespace Attempt

variable {catalog : Catalog} {calls ids made : List String} {id : String}

/-- An attempt whose first loader gives its library goes on with the others. -/
theorem cons {library : Library} {result : Except BuildError (List Library)}
    (hfirst : LoaderAnswers catalog calls id (.ok library))
    (h : Attempt catalog calls ids made result) :
    Attempt catalog calls (id :: ids) (id :: made) (result.map (library :: ·)) := by
  cases h with
  | complete hloaded => exact .complete (.cons hfirst hloaded)
  | failed hloaded hfails => exact .failed (.cons hfirst hloaded) hfails
  | missing hloaded hmissing => exact .missing (.cons hfirst hloaded) hmissing

theorem cons_failed {e : BuildError} (hfirst : LoaderAnswers catalog calls id (.error e)) :
    Attempt catalog calls (id :: ids) [id] (.error e) := by
  rw [← List.nil_append (id :: ids), ← List.nil_append [id]]
  exact .failed .nil hfirst

theorem cons_missing (hmissing : catalog.get? id = none) :
    Attempt catalog calls (id :: ids) [] (.error (.unknownLibrary id)) := by
  rw [← List.nil_append (id :: ids)]
  exact .missing .nil hmissing

end Attempt

/-! ## Identifiers without repeats -/

theorem filter_firsts (p : String → Bool) (ids : List String) :
    (firsts ids).filter p = firsts (ids.filter p) := by
  induction ids with
  | nil => rfl
  | cons id ids ih =>
    rw [firsts]
    cases hp : p id with
    | true =>
      rw [List.filter_cons_of_pos hp, List.filter_cons_of_pos hp, firsts, ← ih, List.filter_filter,
        List.filter_filter]
      simp only [Bool.and_comm]
    | false =>
      -- what is kept is not this identifier anyway
      have hkept : ∀ other ∈ firsts ids, (p other && other != id) = p other := by
        intro other _
        cases hother : p other with
        | false => rfl
        | true =>
          have hne : other ≠ id := by
            rintro rfl
            rw [hp] at hother
            cases hother
          rw [Bool.true_and, bne_iff_ne.2 hne]
      rw [List.filter_cons_of_neg (by simp [hp]), List.filter_cons_of_neg (by simp [hp]), ← ih,
        List.filter_filter]
      exact List.filter_congr hkept

/-- The libraries are loaded in the order of their identifiers, a repeated one not again. -/
theorem firsts_eq_eraseDups (ids : List String) : firsts ids = ids.eraseDups := by
  match ids with
  | [] => rfl
  | id :: ids =>
    have hshorter := List.length_filter_le (fun other => !other == id) ids
    rw [firsts, List.eraseDups_cons, filter_firsts, ← firsts_eq_eraseDups]
    rfl
termination_by ids.length

theorem nodup_firsts (ids : List String) : (firsts ids).Nodup := by
  induction ids with
  | nil => exact List.nodup_nil
  | cons id ids ih =>
    refine List.nodup_cons.2 ⟨?_, ih.filter _⟩
    simp

/-! ## Registries -/

namespace Registry

/-- A registry after more calls. -/
def called (registry : Registry) (made : List String) : Registry :=
  { registry with calls := registry.calls ++ made }

theorem called_nil (registry : Registry) : registry.called [] = registry := by
  rw [called, List.append_nil]

theorem called_called (registry : Registry) (made more : List String) :
    (registry.called made).called more = registry.called (made ++ more) := by
  rw [called, called, called, List.append_assoc]

theorem run_callLoader_of_missing {registry : Registry} {id : String}
    (h : registry.catalog.get? id = none) :
    (callLoader id).run registry = (.error (.unknownLibrary id), registry) := by
  have hget : (get : RegistryM Registry).run registry = (.ok registry, registry) := rfl
  rw [callLoader, run_bind_ok hget, h]
  rfl

theorem run_callLoader {registry : Registry} {id : String} {answer : Except BuildError Library}
    (h : LoaderAnswers registry.catalog registry.calls id answer) :
    (callLoader id).run registry = (answer, registry.called [id]) := by
  have hget : (get : RegistryM Registry).run registry = (.ok registry, registry) := rfl
  have hset : (set (registry.called [id]) : RegistryM PUnit).run registry =
      (.ok (), registry.called [id]) := rfl
  obtain ⟨loader, hloader, hanswer⟩ := h
  rw [callLoader, run_bind_ok hget, hloader]
  show (set (registry.called [id]) >>= _ : RegistryM Library).run registry = _
  rw [run_bind_ok hset, hanswer]
  cases answer with
  | ok library => rfl
  | error e => rfl

/-- **All identifiers**: what is called and what comes of it are those of an attempt after the
    calls that were made before, as no identifier of an attempt repeats one. -/
theorem run_loadAll {registry : Registry} {calls done ids : List String} (hids : ids.Nodup)
    (hdone : ∀ id ∈ ids, id ∉ done) (hcalls : registry.calls = calls ++ done) (index : Index) :
    ∃ made result, Attempt registry.catalog calls ids made result ∧
      (loadAll ids index).run registry =
        (result.map (·.foldl Index.addLibrary index), registry.called made) := by
  induction ids generalizing registry done index with
  | nil => exact ⟨[], .ok [], .complete .nil, by rw [called_nil]; rfl⟩
  | cons id ids ih =>
    have hcount : registry.calls.count id = calls.count id := by
      rw [hcalls, List.count_append, List.count_eq_zero.2 (hdone id List.mem_cons_self),
        Nat.add_zero]
    rw [loadAll]
    cases hloader : registry.catalog.get? id with
    | none =>
      refine ⟨[], _, .cons_missing hloader, ?_⟩
      rw [run_bind_error (run_callLoader_of_missing hloader), called_nil]
      rfl
    | some loader =>
      cases hanswer : loader (calls.count id) with
      | error e =>
        have hrun := run_callLoader ⟨loader, hloader, hcount ▸ hanswer⟩
        refine ⟨[id], _, .cons_failed ⟨loader, hloader, hanswer⟩, ?_⟩
        rw [run_bind_error hrun]
        rfl
      | ok library =>
        have hrun := run_callLoader ⟨loader, hloader, hcount ▸ hanswer⟩
        obtain ⟨hid, hids⟩ := List.nodup_cons.1 hids
        have hlater : ∀ other ∈ ids, other ∉ done ++ [id] := by
          intro other hother
          rw [List.mem_append, List.mem_singleton, not_or]
          refine ⟨hdone other (List.mem_cons_of_mem id hother), ?_⟩
          rintro rfl
          exact hid hother
        have hcalls' : (registry.called [id]).calls = calls ++ (done ++ [id]) := by
          rw [called, hcalls, List.append_assoc]
        obtain ⟨made, result, hattempt, hrest⟩ :=
          ih hids hlater hcalls' (index.addLibrary library)
        refine ⟨id :: made, _, hattempt.cons ⟨loader, hloader, hanswer⟩, ?_⟩
        rw [run_bind_ok hrun, hrest, called_called]
        cases result with
        | ok loaded => rfl
        | error e => rfl

/-- A registry that is loaded answers with its index and calls nothing. -/
theorem run_ensureLoaded_of_index {registry : Registry} {index : Index}
    (h : registry.index = some index) : ensureLoaded.run registry = (.ok index, registry) := by
  have hget : (get : RegistryM Registry).run registry = (.ok registry, registry) := rfl
  rw [ensureLoaded, run_bind_ok hget, h]
  rfl

/-- **A registry that is not loaded makes one attempt**, and is loaded if that is complete. -/
theorem run_ensureLoaded_of_unloaded {registry : Registry} (h : registry.index = none) :
    ∃ made result,
      Attempt registry.catalog registry.calls registry.libraries.eraseDups made result ∧
        ensureLoaded.run registry = (result.map Index.ofLibraries,
          { registry.called made with index := result.toOption.map Index.ofLibraries }) := by
  have hget : (get : RegistryM Registry).run registry = (.ok registry, registry) := rfl
  obtain ⟨made, result, hattempt, hrun⟩ := run_loadAll (nodup_firsts registry.libraries)
    (fun _ _ => List.not_mem_nil) (List.append_nil registry.calls).symm .empty
  refine ⟨made, result, firsts_eq_eraseDups registry.libraries ▸ hattempt, ?_⟩
  rw [ensureLoaded, run_bind_ok hget, h]
  cases result with
  | ok loaded =>
    show (loadAll _ _ >>= _).run registry = _
    rw [run_bind_ok hrun]
    rfl
  | error e =>
    show (loadAll _ _ >>= _).run registry = _
    rw [run_bind_error hrun]
    show _ = (_, { registry.called made with index := none })
    rw [← h]
    rfl

end Registry
end Tag
end BracketMark
