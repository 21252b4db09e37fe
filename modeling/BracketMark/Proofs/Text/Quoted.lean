import BracketMark.Text.Quoted

/-!
# The characters of written numbers and quoted texts

Numbers are written with digits, and a minus sign.  What an escape in a quoted text is made of is
letters, digits and a few signs, so a character apart from these stands in a quoted text only where
it stands in the text; the slash is one of them.
-/

namespace BracketMark
namespace Text

/-! ## Numbers -/

theorem isAlphanum_hexDigit {n : Nat} (h : n < 16) : (hexDigit n).isAlphanum = true := by
  have hall : ∀ k : Fin 16, (hexDigit k).isAlphanum = true := by decide
  exact hall ⟨n, h⟩

theorem isAlphanum_decimal (n : Nat) : ∀ c ∈ decimal n, c.isAlphanum = true := by
  induction n using decimal.induct with
  | case1 n hn =>
    intro c hc
    rw [decimal, if_pos hn] at hc
    rw [List.mem_singleton.1 hc]
    exact isAlphanum_hexDigit (by omega)
  | case2 n hn ih =>
    intro c hc
    rw [decimal, if_neg hn, List.mem_append] at hc
    rcases hc with hc | hc
    · exact ih c hc
    · rw [List.mem_singleton.1 hc]
      exact isAlphanum_hexDigit (by omega)

theorem isAlphanum_hexadecimal (n : Nat) : ∀ c ∈ hexadecimal n, c.isAlphanum = true := by
  induction n using hexadecimal.induct with
  | case1 n hn =>
    intro c hc
    rw [hexadecimal, if_pos hn] at hc
    rw [List.mem_singleton.1 hc]
    exact isAlphanum_hexDigit hn
  | case2 n hn ih =>
    intro c hc
    rw [hexadecimal, if_neg hn, List.mem_append] at hc
    rcases hc with hc | hc
    · exact ih c hc
    · rw [List.mem_singleton.1 hc]
      exact isAlphanum_hexDigit (by omega)

theorem mem_decimalText {n : Int} {c : Char} (h : c ∈ (decimalText n).toList) :
    c = '-' ∨ c.isAlphanum = true := by
  unfold decimalText at h
  rw [String.toList_append, List.mem_append, String.toList_ofList] at h
  rcases h with h | h
  · split at h
    · exact Or.inl (List.mem_singleton.1 h)
    · cases h
  · exact Or.inr (isAlphanum_decimal _ c h)

/-! ## Quoted texts -/

theorem slash_mem_quoteChar_iff {c : Char} : '/' ∈ quoteChar c ↔ c = '/' := by
  constructor
  · intro h
    have hhex : '/' ∉ hexadecimal c.toNat := by
      intro hmem
      exact absurd (isAlphanum_hexadecimal _ _ hmem) (by decide)
    unfold quoteChar at h
    repeat' split at h
    -- an escape has no slash, so the character has been left as it is
    all_goals simp [hhex] at h
    exact h.symm
  · rintro rfl
    decide

theorem slash_mem_quoted_iff {s : String} : '/' ∈ (quoted s).toList ↔ '/' ∈ s.toList := by
  simp [quoted, slash_mem_quoteChar_iff]

end Text
end BracketMark
