import Mathlib.Data.List.DropRight
import Mathlib.Data.List.TakeWhile
import BracketMark.Text.Blank

/-!
# Trimming

Trimming takes blanks off both ends of a text and leaves one that neither begins nor ends with a
blank (`TrimsTo`), so trimming it again changes nothing.
-/

namespace BracketMark
namespace Text

theorem trimEnd_eq_rdropWhile (cs : List Char) : trimEnd cs = cs.rdropWhile isBlank := rfl

/-- A trimmed text begins as the text without its leading blanks does, if it is not empty. -/
theorem trim_isPrefix (cs : List Char) : trim cs <+: trimStart cs :=
  List.rdropWhile_prefix isBlank _

theorem trimStart_trim (cs : List Char) : trimStart (trim cs) = trim cs := by
  apply List.dropWhile_eq_self_iff.2
  intro hpos
  rw [(trim_isPrefix cs).getElem hpos]
  exact List.dropWhile_get_zero_not isBlank cs _

theorem trim_trim (cs : List Char) : trim (trim cs) = trim cs := by
  rw [trim, trimStart_trim, trim, trimEnd_eq_rdropWhile, trimEnd_eq_rdropWhile,
    List.rdropWhile_idempotent]

/-- `TrimsTo text trimmed`: the text is this one between blanks, which has none at its ends. -/
structure TrimsTo (text trimmed : List Char) : Prop where
  around : ∃ before after, text = before ++ trimmed ++ after ∧
    (∀ c ∈ before, isBlank c = true) ∧ ∀ c ∈ after, isBlank c = true
  first : ∀ c, trimmed.head? = some c → isBlank c = false
  last : ∀ c, trimmed.getLast? = some c → isBlank c = false

theorem trimsTo_trim (cs : List Char) : TrimsTo cs (trim cs) where
  around := by
    refine ⟨cs.takeWhile isBlank, (trimStart cs).rtakeWhile isBlank, ?_, ?_, ?_⟩
    · rw [trim, trimEnd_eq_rdropWhile, List.append_assoc, List.rdropWhile_append_rtakeWhile,
        trimStart, List.takeWhile_append_dropWhile]
    · intro c hc
      exact List.mem_takeWhile_imp hc
    · intro c hc
      exact List.mem_rtakeWhile_imp hc
  first := by
    intro c hc
    rw [← trimStart_trim, trimStart] at hc
    simpa [hc] using List.head?_dropWhile_not isBlank (trim cs)
  last := by
    intro c hc
    rw [trim, trimEnd, List.getLast?_reverse] at hc
    simpa [hc] using List.head?_dropWhile_not isBlank (trimStart cs).reverse

/-- Only blank text is trimmed away altogether. -/
theorem trim_eq_nil_iff {cs : List Char} : trim cs = [] ↔ ∀ c ∈ cs, isBlank c = true := by
  rw [trim, trimEnd_eq_rdropWhile, List.rdropWhile_eq_nil_iff]
  constructor
  · intro h c hc
    rw [← List.takeWhile_append_dropWhile (p := isBlank) (l := cs), List.mem_append] at hc
    rcases hc with hc | hc
    · exact List.mem_takeWhile_imp hc
    · exact h c hc
  · intro h c hc
    exact h c ((List.dropWhile_suffix isBlank).subset hc)

end Text
end BracketMark
