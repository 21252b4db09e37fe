/-!
# Blank characters

A character is blank when it has the Unicode property White_Space.  Whatever trims, splits or
skips in markup does so by this one property; the zero width space (U+200B), the byte order
mark (U+FEFF) and the separators U+001C to U+001F do not have it, so they are ordinary text.
-/

namespace BracketMark
namespace Text

/-- The Unicode property White_Space. -/
def isBlank (c : Char) : Bool :=
  let n := c.toNat
  (0x09 ≤ n && n ≤ 0x0D) || n == 0x20 || n == 0x85 || n == 0xA0 || n == 0x1680 ||
    (0x2000 ≤ n && n ≤ 0x200A) || n == 0x2028 || n == 0x2029 || n == 0x202F ||
    n == 0x205F || n == 0x3000

/-- The text without the blanks it begins with. -/
def trimStart (cs : List Char) : List Char :=
  cs.dropWhile isBlank

/-- The text without the blanks it ends with. -/
def trimEnd (cs : List Char) : List Char :=
  (cs.reverse.dropWhile isBlank).reverse

/-- The text without blanks at either end. -/
def trim (cs : List Char) : List Char :=
  trimEnd (trimStart cs)

/-- A string is blank when it has no other characters. -/
def blank (s : String) : Bool :=
  s.toList.all isBlank

/-- The ASCII lower-case form of a text; letters outside ASCII stay as they are. -/
def fold (cs : List Char) : List Char :=
  cs.map Char.toLower

/-- The ASCII lower-case form of a string. -/
def foldCase (s : String) : String :=
  String.ofList (fold s.toList)

/-! ## Laws -/

theorem length_trimStart_le (cs : List Char) : (trimStart cs).length ≤ cs.length :=
  (List.dropWhile_suffix isBlank).length_le

/-- Folding moves the 26 capital letters and nothing else. -/
theorem toLower_cases (c : Char) :
    c.isUpper = false ∧ c.toLower = c ∨ ∃ n : Fin 26, c = Char.ofNat (65 + n) := by
  unfold Char.toLower
  split
  case isTrue h =>
    have lo : 65 ≤ c.toNat := UInt32.le_iff_toNat_le.1 h.1
    have hi : c.toNat ≤ 90 := UInt32.le_iff_toNat_le.1 h.2
    refine Or.inr ⟨⟨c.toNat - 65, by omega⟩, ?_⟩
    show c = Char.ofNat (65 + (c.toNat - 65))
    rw [Nat.add_sub_cancel' lo, Char.ofNat_toNat]
  case isFalse h => exact Or.inl ⟨decide_eq_false h, rfl⟩

theorem toLower_eq_or_capital (c : Char) : c.toLower = c ∨ ∃ n : Fin 26, c = Char.ofNat (65 + n) :=
  (toLower_cases c).imp And.right id

@[simp] theorem toLower_toLower (c : Char) : c.toLower.toLower = c.toLower := by
  rcases toLower_eq_or_capital c with h | ⟨n, rfl⟩
  · rw [h, h]
  · revert n; decide

@[simp] theorem isBlank_toLower (c : Char) : isBlank c.toLower = isBlank c := by
  rcases toLower_eq_or_capital c with h | ⟨n, rfl⟩
  · rw [h]
  · revert n; decide

@[simp] theorem fold_fold (cs : List Char) : fold (fold cs) = fold cs := by
  simp [fold]

@[simp] theorem toList_foldCase (s : String) : (foldCase s).toList = fold s.toList := by
  simp [foldCase]

@[simp] theorem foldCase_foldCase (s : String) : foldCase (foldCase s) = foldCase s := by
  apply String.toList_inj.1
  simp

@[simp] theorem blank_foldCase (s : String) : blank (foldCase s) = blank s := by
  simp [blank, fold, List.all_map, Function.comp_def]

end Text
end BracketMark
