import BracketMark.Proofs.Document.Indexed

/-!
# Requests to a registry

A registry is asked for definitions, for its index, whether it is loaded, and to build and compile,
in any order and as often as one likes, and a loader may fail on any of its calls.  This is what
then holds, after any requests (`serve_loadsOnce`).

A registry that is not loaded makes one attempt for each request that needs its index, and none for
any other.  An attempt that fails leaves nothing behind but the record of its calls, so the next
one begins again with the first library.  The first attempt that is complete is the last: from then
on no loader is called, and every answer is that of the index it made.
-/

namespace BracketMark
namespace Document

open Markup Tag Registry

/-- What a registry is asked for. -/
inductive Request where
  | lookup (name : String)
  | definitions
  | ensureLoaded
  | isLoaded
  | build (forest : Forest)
  | compile (parser : Parser) (markup : String)

inductive Answer where
  | definition (definition : Definition)
  | definitions (definitions : List Definition)
  | index (index : Index)
  | loaded (loaded : Bool)
  | tree (tree : Tree)

namespace Request

def perform : Request → RegistryM Answer
  | .lookup name => do return .definition (← Registry.lookup name)
  | .definitions => do return .definitions (← Registry.definitions)
  | .ensureLoaded => do return .index (← Registry.ensureLoaded)
  | .isLoaded => do return .loaded (← get).isLoaded
  | .build forest => do return .tree (← Document.build forest)
  | .compile parser markup => do return .tree (← Document.compile parser markup)

/-- Whether a request cannot be answered without the index.  Building can if there is no tag. -/
def needsIndex : Request → Bool
  | .isLoaded => false
  | .build forest => hasTag forest
  | .compile parser markup => (parser markup).any hasTag
  | _ => true

/-- The answer to a request when this is the index. -/
def answer (request : Request) (index : Index) : Except BuildError Answer :=
  match request with
  | .lookup name => do return .definition (← index.lookup name)
  | .definitions => .ok (.definitions index.values)
  | .ensureLoaded => .ok (.index index)
  | .isLoaded => .ok (.loaded true)
  | .build forest => do return .tree (← index.build forest)
  | .compile parser markup => do return .tree (← index.compile parser markup)

end Request

/-- Requests one after another, with their answers in order. -/
def serve : List Request → Registry → List (Except BuildError Answer) × Registry
  | [], registry => ([], registry)
  | request :: requests, registry =>
    let served := request.perform.run registry
    let rest := serve requests served.2
    (served.1 :: rest.1, rest.2)

/-! ## One request -/

theorem consults_perform {request : Request} (h : request.needsIndex = true) :
    Consults request.perform request.answer := by
  cases request with
  | lookup name => exact (consults_lookup name).map Answer.definition
  | definitions => exact consults_definitions.map Answer.definitions
  | ensureLoaded => exact consults_ensureLoaded.map Answer.index
  | isLoaded => cases h
  | build forest => exact (consults_build h).map Answer.tree
  | compile parser markup => exact (consults_compile h).map Answer.tree

theorem ignores_perform {request : Request} (h : request.needsIndex = false)
    (hloaded : request ≠ .isLoaded) : Ignores request.perform request.answer := by
  cases request with
  | lookup name => cases h
  | definitions => cases h
  | ensureLoaded => cases h
  | isLoaded => exact absurd rfl hloaded
  | build forest => exact (ignores_build h).map Answer.tree
  | compile parser markup => exact (ignores_compile h).map Answer.tree

theorem run_isLoaded (registry : Registry) :
    Request.isLoaded.perform.run registry = (.ok (.loaded registry.isLoaded), registry) := rfl

/-- A registry that is loaded answers every request from its index and stays as it is. -/
theorem answersLoaded_perform (request : Request) :
    AnswersLoaded request.perform request.answer := by
  by_cases hloaded : request = .isLoaded
  · subst hloaded
    intro registry index hindex
    rw [run_isLoaded, Registry.isLoaded, hindex]
    rfl
  · cases h : request.needsIndex with
    | true => exact (consults_perform h).answersLoaded
    | false => exact (ignores_perform h hloaded).answersLoaded

/-- **One request to a registry that is not loaded**, if it needs the index, makes one attempt. -/
theorem run_perform_of_unloaded {registry : Registry} (hindex : registry.index = none)
    {request : Request} (h : request.needsIndex = true) :
    ∃ made result,
      Attempt registry.catalog registry.calls registry.libraries.eraseDups made result ∧
        request.perform.run registry =
          (result.bind fun loaded => request.answer (.ofLibraries loaded),
            { registry.called made with index := result.toOption.map Index.ofLibraries }) := by
  obtain ⟨made, result, hattempt, hrun⟩ := run_ensureLoaded_of_unloaded hindex
  refine ⟨made, result, hattempt, ?_⟩
  rw [consults_perform h registry, hrun]
  cases result with
  | ok loaded => rfl
  | error e => rfl

/-! ## Many requests -/

/-- **All requests to a registry that is loaded** are answered from its index. -/
theorem serve_of_index {registry : Registry} {index : Index} (h : registry.index = some index)
    (requests : List Request) :
    serve requests registry = (requests.map (·.answer index), registry) := by
  induction requests with
  | nil => rfl
  | cons request requests ih =>
    rw [serve, answersLoaded_perform request registry index h]
    show (_ :: (serve requests registry).1, (serve requests registry).2) = _
    rw [ih]
    rfl

/-- A registry keeps what it was configured with. -/
theorem configured_perform (request : Request) (registry : Registry) :
    let next := (request.perform.run registry).2
    next.catalog = registry.catalog ∧ next.libraries = registry.libraries := by
  cases hindex : registry.index with
  | some index =>
    rw [answersLoaded_perform request registry index hindex]
    exact ⟨rfl, rfl⟩
  | none =>
    by_cases hloaded : request = .isLoaded
    · subst hloaded
      exact ⟨rfl, rfl⟩
    · cases h : request.needsIndex with
      | true =>
        obtain ⟨made, result, -, hrun⟩ := run_perform_of_unloaded hindex h
        rw [hrun]
        exact ⟨rfl, rfl⟩
      | false =>
        rw [ignores_perform h hloaded registry .empty]
        exact ⟨rfl, rfl⟩

theorem configured_serve (requests : List Request) (registry : Registry) :
    let last := (serve requests registry).2
    last.catalog = registry.catalog ∧ last.libraries = registry.libraries := by
  induction requests generalizing registry with
  | nil => exact ⟨rfl, rfl⟩
  | cons request requests ih =>
    obtain ⟨hcatalog, hlibraries⟩ := configured_perform request registry
    obtain ⟨hcatalog', hlibraries'⟩ := ih (request.perform.run registry).2
    exact ⟨hcatalog'.trans hcatalog, hlibraries'.trans hlibraries⟩

/-- **A registry is loaded once, and again only after a failure.**  After any requests it is loaded,
    and then all answers come from its index and nothing changes it; or it is not loaded.  Then a
    request that needs no index leaves it as it is.  Any other makes one attempt: if this fails, its
    error is the answer and the registry is still not loaded; if it is complete, its index is that
    of the registry for good. -/
theorem serve_loadsOnce (catalog : Catalog) (libraries : List String) (requests : List Request) :
    let registry := (serve requests (.new catalog libraries)).2
    (∀ index, registry.index = some index →
      ∀ more, serve more registry = (more.map (·.answer index), registry)) ∧
    (registry.isLoaded = false → ∀ (request : Request) answer next,
      request.perform.run registry = (answer, next) →
      (request.needsIndex = false →
        next = registry ∧ (request = .isLoaded → answer = .ok (.loaded false)) ∧
          (request ≠ .isLoaded → ∀ index, answer = request.answer index)) ∧
      (request.needsIndex = true → ∃ made result,
        Attempt catalog registry.calls libraries.eraseDups made result ∧
        next.calls = registry.calls ++ made ∧
        match result with
        | .error e => answer = .error e ∧ next.isLoaded = false
        | .ok loaded =>
          answer = request.answer (.ofLibraries loaded) ∧ next.isLoaded = true ∧
            ∀ more, serve more next = (more.map (·.answer (.ofLibraries loaded)), next))) := by
  intro registry
  obtain ⟨hcatalog, hlibraries⟩ := configured_serve requests (.new catalog libraries)
  refine ⟨fun index hindex => serve_of_index hindex,
    fun hunloaded request answer next hnext => ⟨?_, ?_⟩⟩
  · intro hneeds
    by_cases hloaded : request = .isLoaded
    · subst hloaded
      rw [run_isLoaded, hunloaded] at hnext
      cases hnext
      exact ⟨rfl, fun _ => rfl, fun h => absurd rfl h⟩
    · have hrun index : (request.answer index, registry) = (answer, next) :=
        (ignores_perform hneeds hloaded registry index).symm.trans hnext
      exact ⟨(Prod.mk.inj (hrun .empty)).2.symm, fun h => absurd h hloaded,
        fun _ index => (Prod.mk.inj (hrun index)).1.symm⟩
  · intro hneeds
    have hindex : registry.index = none :=
      Option.isNone_iff_eq_none.1 (Option.isSome_eq_false_iff.1 hunloaded)
    obtain ⟨made, result, hattempt, hrun⟩ := run_perform_of_unloaded hindex hneeds
    rw [hcatalog, hlibraries] at hattempt
    obtain ⟨rfl, rfl⟩ := Prod.mk.inj (hrun.symm.trans hnext)
    refine ⟨made, result, hattempt, rfl, ?_⟩
    cases result with
    | error e => exact ⟨rfl, rfl⟩
    | ok loaded => exact ⟨rfl, rfl, serve_of_index rfl⟩

/-- A catalog whose second loader fails the first time it is called. -/
def unsteadyCatalog : Catalog :=
  Dict.ofList [("text", fun _ => .ok Formatting.library),
    ("quote", fun earlier => if earlier = 0 then .error .unnamedTag else .ok Quotation.library)]

theorem serve_loadsOnce_unsteady :
    let registry := (serve [.lookup "b"] (.new unsteadyCatalog ["text", "quote", "text"])).2
    registry.isLoaded = false ∧ ∃ made result,
      Attempt unsteadyCatalog ["text", "quote"] ["text", "quote"] made result ∧
        (Request.ensureLoaded.perform.run registry).2.calls = ["text", "quote"] ++ made := by
  have hserve := serve_loadsOnce unsteadyCatalog ["text", "quote", "text"] [.lookup "b"]
  have hcalls : (serve [.lookup "b"] (.new unsteadyCatalog ["text", "quote", "text"])).2.calls =
      ["text", "quote"] := by decide +kernel
  have hunloaded : (serve [.lookup "b"]
      (.new unsteadyCatalog ["text", "quote", "text"])).2.isLoaded = false := by decide +kernel
  obtain ⟨made, result, hattempt, hmade, -⟩ :=
    (hserve.2 hunloaded .ensureLoaded _ _ rfl).2 rfl
  rw [hcalls] at hattempt hmade
  exact ⟨hunloaded, made, result, hattempt, hmade⟩

end Document
end BracketMark
