import BracketMark.Proofs.Html.Literal

/-!
# Literals in pieces

A text may be made a literal as a whole or piece by piece.  That is the same, but for one thing:
if a piece ends in a carriage return and the line feed of the pair comes in a later one, two
breaks are shown and not one (`length_lineFeeds_append`).  What was broken once too often is not
made up for by the pieces after it, so the number of breaks tells the two ways apart whenever a
pair is split (`lineFeeds_flatten_eq_iff`).
-/

namespace BracketMark
namespace Html

/-- A pair of a carriage return and a line feed stands in two of the pieces; those between them are
    empty. -/
def SplitsPair (pieces : List (List Char)) : Prop :=
  ∃ before piece after, pieces = before ++ piece :: after ∧ piece.getLast? = some '\r' ∧
    after.flatten.head? = some '\n'

theorem not_splitsPair_nil : ¬SplitsPair [] := by
  rintro ⟨before, piece, after, heq, -, -⟩
  exact absurd heq.symm (List.append_ne_nil_of_right_ne_nil before (List.cons_ne_nil piece after))

theorem splitsPair_cons {piece : List Char} {pieces : List (List Char)} :
    SplitsPair (piece :: pieces) ↔
      (piece.getLast? = some '\r' ∧ pieces.flatten.head? = some '\n') ∨ SplitsPair pieces := by
  constructor
  · rintro ⟨before, cut, after, heq, hreturn, hfeed⟩
    rcases List.cons_eq_append_iff.1 heq with ⟨rfl, hcut⟩ | ⟨before', rfl, hrest⟩
    · obtain ⟨rfl, rfl⟩ := List.cons.inj hcut
      exact Or.inl ⟨hreturn, hfeed⟩
    · exact Or.inr ⟨before', cut, after, hrest, hreturn, hfeed⟩
  · rintro (⟨hreturn, hfeed⟩ | ⟨before, cut, after, rfl, hreturn, hfeed⟩)
    · exact ⟨[], piece, pieces, rfl, hreturn, hfeed⟩
    · exact ⟨piece :: before, cut, after, rfl, hreturn, hfeed⟩

/-! ## Line breaks of one style -/

section

variable {xs ys : List Char}

/-- **A pair that is cut in two is one break more.** -/
theorem length_lineFeeds_append (hreturn : xs.getLast? = some '\r')
    (hfeed : ys.head? = some '\n') :
    (lineFeeds (xs ++ ys)).length + 1 = (lineFeeds xs ++ lineFeeds ys).length := by
  obtain ⟨before, rfl⟩ := List.getLast?_eq_some_iff.1 hreturn
  obtain ⟨after, rfl⟩ := List.head?_eq_some_iff.1 hfeed
  -- nothing else is cut: neither before the return nor behind the line feed
  have hreturn_head (cs : List Char) : ('\r' :: cs).head? ≠ some '\n' := by simp
  have hwhole : lineFeeds (before ++ ['\r'] ++ '\n' :: after) =
      lineFeeds before ++ '\n' :: lineFeeds after := by
    rw [List.append_assoc, List.singleton_append,
      lineFeeds_append_of_ne (Or.inr (hreturn_head _)), lineFeeds]
  have hbefore : lineFeeds (before ++ ['\r']) = lineFeeds before ++ ['\n'] :=
    lineFeeds_append_of_ne (Or.inr (hreturn_head []))
  rw [hwhole, hbefore, lineFeeds_cons_of_ne (by decide)]
  simp only [List.length_append, List.length_cons, List.length_nil]
  omega

theorem length_lineFeeds_append_le (xs ys : List Char) :
    (lineFeeds (xs ++ ys)).length ≤ (lineFeeds xs ++ lineFeeds ys).length := by
  by_cases hcut : xs.getLast? = some '\r' ∧ ys.head? = some '\n'
  · exact (length_lineFeeds_append hcut.1 hcut.2) ▸ Nat.le_succ _
  · exact Nat.le_of_eq (congrArg List.length (lineFeeds_append_of_ne (not_and_or.1 hcut)))

end

/-- Piece by piece there are never fewer breaks. -/
theorem length_lineFeeds_flatten_le (pieces : List (List Char)) :
    (lineFeeds pieces.flatten).length ≤ (pieces.flatMap lineFeeds).length := by
  induction pieces with
  | nil => exact Nat.le_refl 0
  | cons piece pieces ih =>
    have happend := length_lineFeeds_append_le piece pieces.flatten
    rw [List.length_append] at happend
    rw [List.flatten_cons, List.flatMap_cons, List.length_append]
    omega

/-- **Line breaks may be brought to one style piece by piece** exactly if no pair is split. -/
theorem lineFeeds_flatten_eq_iff (pieces : List (List Char)) :
    pieces.flatMap lineFeeds = lineFeeds pieces.flatten ↔ ¬SplitsPair pieces := by
  induction pieces with
  | nil => exact iff_of_true rfl not_splitsPair_nil
  | cons piece pieces ih =>
    rw [List.flatMap_cons, List.flatten_cons, splitsPair_cons, not_or, ← ih]
    by_cases hcut : piece.getLast? = some '\r' ∧ pieces.flatten.head? = some '\n'
    · -- one break is lost here, and the pieces behind lose breaks at most
      have hlength := length_lineFeeds_append hcut.1 hcut.2
      have hrest := length_lineFeeds_flatten_le pieces
      refine iff_of_false (fun heq => ?_) fun hboth => hboth.1 hcut
      rw [← heq, List.length_append, List.length_append] at hlength
      omega
    · rw [lineFeeds_append_of_ne (not_and_or.1 hcut), List.append_cancel_left_eq]
      exact ⟨fun heq => ⟨hcut, heq⟩, And.right⟩

/-! ## Literals -/

theorem flatMap_literalChar_inj {xs ys : List Char} :
    xs.flatMap literalChar = ys.flatMap literalChar ↔ xs = ys := by
  constructor
  · intro h
    rw [← readLiteral_flatMap xs, h, readLiteral_flatMap]
  · rintro rfl
    rfl

/-- Literals in a row, from character to character. -/
theorem join_literals (texts : List String) :
    String.join (texts.map fun text => (literal text).text) =
      String.ofList (((texts.map String.toList).flatMap lineFeeds).flatMap literalChar) := by
  rw [← String.toList_inj, String.toList_join, String.toList_ofList, List.flatMap_map,
    List.flatMap_map, List.flatMap_assoc]
  refine List.flatMap_congr fun text _ => ?_
  rw [text_literal, String.toList_ofList]

/-- **Literals in a row are the literal of the whole text** exactly if no pair is split. -/
theorem join_literals_eq_iff (texts : List String) :
    String.join (texts.map fun text => (literal text).text) = (literal (String.join texts)).text ↔
      ¬SplitsPair (texts.map String.toList) := by
  have hwhole : (String.join texts).toList = (texts.map String.toList).flatten := by
    rw [String.toList_join, List.flatMap_def]
  rw [join_literals, text_literal, hwhole, String.ofList_inj, flatMap_literalChar_inj,
    lineFeeds_flatten_eq_iff]

/-! ## Safe text in pieces -/

theorem text_join (pieces : List Safe) :
    (Safe.join pieces).text = String.join (pieces.map Safe.text) := by
  rw [String.join, List.foldl_map]
  exact (List.foldl_hom Safe.text fun _ _ => rfl).symm

end Html
end BracketMark
