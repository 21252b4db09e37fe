import BracketMark.Text.Blank

/-!
# Lower case and the parts of a text

Lower case changes letters only.  So what is told apart by characters that are not letters, or by
a property that does not depend on case, is told apart at the same places of a text and of its
lower-case form.
-/

namespace BracketMark
namespace Text

/-! ## Characters -/

/-- A character is moved to or from a letter only. -/
theorem toLower_eq_iff {c d : Char} (hd : d.isAlpha = false) : c.toLower = d ↔ c = d := by
  have hletter (n : Fin 26) : (Char.ofNat (65 + n)).isAlpha = true ∧
      (Char.ofNat (65 + n)).toLower.isAlpha = true := by
    revert n
    decide
  rcases toLower_eq_or_capital c with hc | ⟨n, rfl⟩
  · rw [hc]
  · constructor
    · rintro rfl
      simp [(hletter n).2] at hd
    · rintro rfl
      simp [(hletter n).1] at hd

theorem beq_toLower {c d : Char} (hd : d.isAlpha = false) : (c.toLower == d) = (c == d) := by
  rw [Bool.eq_iff_iff, beq_iff_eq, beq_iff_eq, toLower_eq_iff hd]

theorem bne_toLower {c d : Char} (hd : d.isAlpha = false) : (c.toLower != d) = (c != d) := by
  rw [bne, bne, beq_toLower hd]

/-! ## Texts -/

@[simp] theorem fold_nil : fold [] = [] := rfl

@[simp] theorem fold_cons (c : Char) (cs : List Char) : fold (c :: cs) = c.toLower :: fold cs :=
  rfl

@[simp] theorem fold_append (cs ds : List Char) : fold (cs ++ ds) = fold cs ++ fold ds :=
  List.map_append

@[simp] theorem length_fold (cs : List Char) : (fold cs).length = cs.length :=
  List.length_map _

section

variable {p : Char → Bool} (hp : ∀ c, p c.toLower = p c) (cs : List Char)

include hp

theorem takeWhile_fold : (fold cs).takeWhile p = fold (cs.takeWhile p) := by
  induction cs with
  | nil => rfl
  | cons c cs ih =>
    rw [fold_cons, List.takeWhile_cons, List.takeWhile_cons, hp, ih]
    split
    · rfl
    · rfl

theorem dropWhile_fold : (fold cs).dropWhile p = fold (cs.dropWhile p) := by
  induction cs with
  | nil => rfl
  | cons c cs ih =>
    rw [fold_cons, List.dropWhile_cons, List.dropWhile_cons, hp, ih]
    split
    · rfl
    · rfl

theorem all_fold : (fold cs).all p = cs.all p := by
  induction cs with
  | nil => rfl
  | cons c cs ih => rw [fold_cons, List.all_cons, List.all_cons, hp, ih]

end

theorem fold_reverse (cs : List Char) : fold cs.reverse = (fold cs).reverse :=
  List.map_reverse

theorem trim_fold (cs : List Char) : trim (fold cs) = fold (trim cs) := by
  simp only [trim, trimStart, trimEnd]
  rw [dropWhile_fold isBlank_toLower, ← fold_reverse, dropWhile_fold isBlank_toLower, fold_reverse]

/-! ## Strings -/

theorem ofList_fold (cs : List Char) : String.ofList (fold cs) = foldCase (String.ofList cs) := by
  rw [foldCase, String.toList_ofList]

theorem foldCase_append (s t : String) : foldCase (s ++ t) = foldCase s ++ foldCase t := by
  apply String.toList_inj.1
  simp

theorem foldCase_eq_empty_iff {s : String} : foldCase s = "" ↔ s = "" := by
  rw [← String.toList_inj, ← String.toList_inj, toList_foldCase]
  cases s.toList with
  | nil => exact Iff.rfl
  | cons c cs => simp

end Text
end BracketMark
