import BracketMark.Tag.Links
import BracketMark.Proofs.Text.Trim

/-!
# Accepted targets

What is accepted as a target is the text without the blanks around it.  It is accepted if a colon
is not the first of the characters that end a scheme (`ColonFirst`), or if what stands before that
colon is a safe scheme.  An accepted target is accepted again as it stands, so a target on a page
can be told to have been accepted by looking at it alone.
-/

namespace BracketMark
namespace Tag
namespace Links

open Text

/-! ## Schemes -/

/-- `ColonFirst text front`: of the characters that end a scheme a colon comes first in the text,
    behind this front. -/
def ColonFirst (text front : List Char) : Prop :=
  (∀ c ∈ front, c ∉ [':', '/', '?', '#']) ∧ ∃ rest, text = front ++ ':' :: rest

/-- The scheme is one of the safe ones in some case of its letters. -/
def IsSafe (scheme : List Char) : Prop :=
  String.ofList (fold scheme) ∈ safeSchemes

theorem endsScheme_eq_false_iff {c : Char} :
    endsScheme c = false ↔ c ∉ [':', '/', '?', '#'] := by
  simp [endsScheme, and_assoc]

theorem scheme?_eq_some_iff {target scheme : List Char} :
    scheme? target = some scheme ↔ ColonFirst target scheme := by
  unfold scheme?
  constructor
  · intro h
    split at h
    · next rest hdrop =>
      cases h
      refine ⟨fun c hc => ?_, rest, ?_⟩
      · rw [← endsScheme_eq_false_iff]
        simpa using List.mem_takeWhile_imp hc
      · rw [← hdrop, List.takeWhile_append_dropWhile]
    · cases h
  · intro ⟨hfront, rest, htarget⟩
    have hall : ∀ c ∈ scheme, (!endsScheme c) = true := by
      intro c hc
      simpa using endsScheme_eq_false_iff.2 (hfront c hc)
    have hcolon : (!endsScheme ':') = false := rfl
    rw [htarget, List.dropWhile_append_of_pos hall, List.takeWhile_append_of_pos hall]
    simp [hcolon]

theorem isSafeScheme_iff {scheme : List Char} : isSafeScheme scheme = true ↔ IsSafe scheme := by
  unfold isSafeScheme IsSafe
  rw [List.any_eq_true]
  constructor
  · intro ⟨safe, hsafe, hscheme⟩
    rw [← beq_iff_eq.1 hscheme, String.ofList_toList]
    exact hsafe
  · intro h
    exact ⟨_, h, by simp⟩

/-! ## Targets -/

/-- A target is accepted if it is not blank and its scheme, if it has one, is safe. -/
theorem safeTarget_eq_some_iff {target accepted : List Char} :
    safeTarget target = some accepted ↔ accepted = trim target ∧ accepted ≠ [] ∧
      ∀ scheme, ColonFirst accepted scheme → IsSafe scheme := by
  unfold safeTarget
  cases htrim : trim target with
  | nil => simp +contextual
  | cons c cs =>
    simp only [← scheme?_eq_some_iff, ← isSafeScheme_iff]
    cases hscheme : scheme? (c :: cs) with
    | none =>
      constructor
      · intro h
        cases h
        simp [hscheme]
      · intro h
        rw [h.1]
    | some scheme =>
      show (if isSafeScheme scheme = true then some (c :: cs) else none) = some accepted ↔ _
      by_cases hsafe : isSafeScheme scheme = true
      · rw [if_pos hsafe]
        constructor
        · intro h
          cases h
          simp [hscheme, hsafe]
        · intro h
          rw [h.1]
      · rw [if_neg hsafe]
        constructor
        · intro h
          cases h
        · rintro ⟨rfl, -, hall⟩
          exact absurd (hall scheme hscheme) hsafe

theorem safeTarget_eq_some {target accepted : List Char}
    (h : safeTarget target = some accepted) : accepted = trim target ∧ accepted ≠ [] := by
  obtain ⟨htrim, hne, -⟩ := safeTarget_eq_some_iff.1 h
  exact ⟨htrim, hne⟩

/-- A target that is not blank is refused if its scheme is not safe. -/
theorem safeTarget_eq_none_iff {target : List Char} (h : trim target ≠ []) :
    safeTarget target = none ↔ ∃ scheme, ColonFirst (trim target) scheme ∧ ¬IsSafe scheme := by
  rw [Option.eq_none_iff_forall_ne_some]
  constructor
  · intro hnone
    by_contra hnot
    push Not at hnot
    exact hnone _ (safeTarget_eq_some_iff.2 ⟨rfl, h, hnot⟩)
  · intro ⟨scheme, hcolon, hunsafe⟩ accepted haccepted
    obtain ⟨rfl, -, hsafe⟩ := safeTarget_eq_some_iff.1 haccepted
    exact hunsafe (hsafe scheme hcolon)

/-- Only the trimmed text decides. -/
theorem safeTarget_trim (target : List Char) : safeTarget (trim target) = safeTarget target := by
  rw [safeTarget, trim_trim, ← safeTarget]

/-- **An accepted target is accepted as it stands.** -/
theorem safeTarget_accepted {target accepted : List Char}
    (h : safeTarget target = some accepted) : safeTarget accepted = some accepted := by
  have htrim := (safeTarget_eq_some h).1
  rw [htrim, safeTarget_trim, h, htrim]

end Links
end Tag
end BracketMark
