import BracketMark.Tag.Registry
import BracketMark.Proofs.Effects

/-!
# The built-in tags

The registry of the built-in libraries knows nine tags.  It is in one of two states: nothing is
loaded yet, or all of them are.  In either it answers from the same index, which has a definition
for each of the nine names and for no other.
-/

namespace BracketMark
namespace Tag

/-- The tags of the built-in libraries, in the order in which these export them. -/
def standardTags : List Definition :=
  [Formatting.bold, Formatting.italic, Formatting.underline, Formatting.strike, Formatting.code,
    Formatting.color, Links.url, Links.img, Quotation.quote]

/-! ## Indexes -/

/-- A library answers for the tags it exports, the last of a name first. -/
theorem get?_addLibrary (index : Index) (library : Library) (name : String) :
    (index.addLibrary library).get? name =
      (library.exports.reverse.find? (·.name == name)).or (index.get? name) := by
  rw [Index.addLibrary]
  generalize library.exports = definitions
  induction definitions generalizing index with
  | nil => rfl
  | cons d definitions ih =>
    rw [List.foldl_cons, ih, Dict.get?_insert, List.reverse_cons, List.find?_append]
    cases definitions.reverse.find? (·.name == name) with
    | some found => rfl
    | none =>
      by_cases h : name = d.name
      · subst h
        simp
      · simp [h, Ne.symm h]

/-- The names of the built-in tags. -/
def standardNames : List String :=
  ["b", "i", "u", "s", "code", "color", "url", "img", "quote"]

/-- The definitions of the built-in libraries by name. -/
def standardIndex : Index :=
  ((Index.addLibrary .empty Formatting.library).addLibrary Links.library).addLibrary
    Quotation.library

theorem mem_standardTags_of_get? {name : String} {d : Definition}
    (h : standardIndex.get? name = some d) : d ∈ standardTags := by
  have hfound {library : Library} (hsub : library.exports ⊆ standardTags)
      (h : library.exports.reverse.find? (·.name == name) = some d) : d ∈ standardTags :=
    hsub (List.mem_reverse.1 (List.mem_of_find?_eq_some h))
  rw [standardIndex, get?_addLibrary, get?_addLibrary, get?_addLibrary, Option.or_eq_some_iff,
    Option.or_eq_some_iff, Option.or_eq_some_iff] at h
  rcases h with h | ⟨-, h | ⟨-, h | ⟨-, h⟩⟩⟩
  · exact hfound (by simp [Quotation.library, standardTags]) h
  · exact hfound (by simp [Links.library, standardTags]) h
  · exact hfound (by simp [Formatting.library, standardTags]) h
  · cases h

/-- The index has a definition for the nine names and for no other. -/
theorem isSome_standardIndex (name : String) :
    (standardIndex.get? name).isSome = standardNames.contains name := by
  have hkeys : standardIndex.keys.Perm standardNames := by decide +kernel
  rw [Dict.isSome_get?, Bool.eq_iff_iff, List.contains_iff_mem, List.contains_iff_mem]
  exact hkeys.mem_iff

/-! ## Registries -/

namespace Registry

/-- The registry of the built-in libraries when they are loaded. -/
def loadedBuiltin : Registry :=
  ⟨.builtin, defaultLibraries, some standardIndex, defaultLibraries⟩

/-- A registry that started as the one of the built-in libraries. -/
def IsStandard (registry : Registry) : Prop :=
  registry = builtin ∨ registry = loadedBuiltin

theorem run_ensureLoaded {registry : Registry} (h : registry.IsStandard) :
    ensureLoaded.run registry = (.ok standardIndex, loadedBuiltin) := by
  rcases h with rfl | rfl
  · rfl
  · rfl

end Registry
end Tag
end BracketMark
