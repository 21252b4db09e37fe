import Mathlib.Data.List.Basic

/-!
# Replacing a pattern

A pattern is looked for from left to right; where it stands the replacement takes its place, and the
search goes on behind it, so occurrences do not overlap and a replacement is not looked at again.
For a pattern of one character this is a rewriting from character to character
(`replaceAll_singleton`).
-/

namespace BracketMark
namespace Text

/-- The text with every occurrence of a pattern replaced. -/
def replaceAll (pattern replacement : List Char) : List Char → List Char
  | [] => []
  | c :: cs =>
    if pattern.isPrefixOf (c :: cs) then
      -- the pattern begins at `c`, so all but one of its characters are dropped
      replacement ++ replaceAll pattern replacement (cs.drop (pattern.length - 1))
    else c :: replaceAll pattern replacement cs
termination_by cs => cs.length
decreasing_by
  · simp only [List.length_drop, List.length_cons]
    omega
  · simp

variable {pattern replacement : List Char}

@[simp] theorem replaceAll_nil : replaceAll pattern replacement [] = [] := by
  rw [replaceAll]

theorem replaceAll_of_begins {c : Char} {cs : List Char}
    (h : pattern.isPrefixOf (c :: cs) = true) :
    replaceAll pattern replacement (c :: cs) =
      replacement ++ replaceAll pattern replacement (cs.drop (pattern.length - 1)) := by
  rw [replaceAll, if_pos h]

theorem replaceAll_of_not_begins {c : Char} {cs : List Char}
    (h : pattern.isPrefixOf (c :: cs) = false) :
    replaceAll pattern replacement (c :: cs) = c :: replaceAll pattern replacement cs := by
  rw [replaceAll, h, if_neg Bool.false_ne_true]

/-- A single character is replaced wherever it stands. -/
theorem replaceAll_singleton (target : Char) (cs : List Char) :
    replaceAll [target] replacement cs =
      cs.flatMap (fun c => if c = target then replacement else [c]) := by
  induction cs with
  | nil => simp
  | cons c cs ih =>
    rw [List.flatMap_cons]
    by_cases hc : c = target
    · have hprefix : [target].isPrefixOf (c :: cs) = true := by simp [hc]
      rw [replaceAll_of_begins hprefix, if_pos hc, ← ih]
      simp
    · have hprefix : [target].isPrefixOf (c :: cs) = false := by
        simp [List.isPrefixOf, Ne.symm hc]
      rw [replaceAll_of_not_begins hprefix, if_neg hc, ← ih]
      simp

/-- A text without the character is left as it is. -/
theorem replaceAll_of_notMem {target : Char} {cs : List Char} (h : target ∉ cs) :
    replaceAll [target] replacement cs = cs := by
  have hself : ∀ c ∈ cs, (if c = target then replacement else [c]) = [c] := by
    intro c hc
    apply if_neg
    intro heq
    exact h (heq ▸ hc)
  rw [replaceAll_singleton, List.flatMap_congr hself, List.flatMap_singleton']

/-- The character is gone, unless its replacement brings it back. -/
theorem notMem_replaceAll {target : Char} (h : target ∉ replacement) (cs : List Char) :
    target ∉ replaceAll [target] replacement cs := by
  rw [replaceAll_singleton, List.mem_flatMap]
  rintro ⟨c, -, hmem⟩
  split at hmem
  · exact h hmem
  · next hne => exact hne (List.mem_singleton.1 hmem).symm

end Text
end BracketMark
