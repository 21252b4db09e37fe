import Mathlib.Data.List.Basic
import BracketMark.Html.Safe

/-!
# Laws of escaping

Escaping goes character by character: the five characters of markup become entities and the
others stay.  Line breaks are neither made nor touched by it, so it does not matter whether
they are brought to one style before or after (`lineFeeds_escapeText`), and the two steps that
make a literal are one step from character to character (`breakLines_escapeText`).
-/

namespace BracketMark
namespace Html

/-- The characters that mean something in markup. -/
def specialChars : List Char := ['&', '<', '>', '"', '\'']

/-- Whether a character means something in markup. -/
def isSpecial (c : Char) : Bool := specialChars.contains c

/-- What escaping writes for the characters that mean something. -/
def entities : List String := ["&amp;", "&lt;", "&gt;", "&quot;", "&#x27;"]

/-! ## Characters -/

theorem mem_specialChars_iff {c : Char} : c ∈ specialChars ↔ isSpecial c = true :=
  List.contains_iff_mem.symm

/-- What no special character is. -/
theorem not_isSpecial {p : Char → Bool} (hp : specialChars.any p = false) {c : Char}
    (hc : p c = true) : isSpecial c = false := by
  cases hspecial : isSpecial c with
  | false => rfl
  | true => exact absurd hc (List.any_eq_false.1 hp c (mem_specialChars_iff.2 hspecial))

theorem escapeChar_of_special {c : Char} (h : isSpecial c = true) :
    ∃ entity ∈ entities, escapeChar c = entity.toList := by
  have hmem := mem_specialChars_iff.2 h
  simp only [specialChars, List.mem_cons, List.not_mem_nil, or_false] at hmem
  rcases hmem with rfl | rfl | rfl | rfl | rfl
  · exact ⟨"&amp;", by simp [entities], rfl⟩
  · exact ⟨"&lt;", by simp [entities], rfl⟩
  · exact ⟨"&gt;", by simp [entities], rfl⟩
  · exact ⟨"&quot;", by simp [entities], rfl⟩
  · exact ⟨"&#x27;", by simp [entities], rfl⟩

theorem escapeChar_of_not_special {c : Char} (h : isSpecial c = false) : escapeChar c = [c] := by
  have hmem : c ∉ specialChars := by
    intro hmem
    rw [mem_specialChars_iff, h] at hmem
    cases hmem
  simp only [specialChars, List.mem_cons, List.not_mem_nil, or_false, not_or] at hmem
  obtain ⟨hamp, hlt, hgt, hquot, hapos⟩ := hmem
  rw [escapeChar, if_neg hamp, if_neg hlt, if_neg hgt, if_neg hquot, if_neg hapos]

/-- A character is escaped to one or more characters, and none of them is a line break that the
    character was not. -/
theorem escapeChar_eq_self_or (c : Char) :
    escapeChar c = [c] ∨ (escapeChar c ≠ [] ∧ '\r' ∉ escapeChar c ∧ '\n' ∉ escapeChar c) := by
  cases hspecial : isSpecial c with
  | false => exact Or.inl (escapeChar_of_not_special hspecial)
  | true =>
    have hbreaks : ∀ e ∈ entities, e.toList ≠ [] ∧ '\r' ∉ e.toList ∧ '\n' ∉ e.toList := by decide
    obtain ⟨entity, hentity, hescape⟩ := escapeChar_of_special hspecial
    rw [hescape]
    exact Or.inr (hbreaks entity hentity)

/-- Escaping makes no line breaks. -/
theorem not_mem_escapeChar {c d : Char} (hd : d = '\r' ∨ d = '\n') (hne : c ≠ d) :
    d ∉ escapeChar c := by
  rcases escapeChar_eq_self_or c with hself | ⟨-, hreturn, hfeed⟩
  · rw [hself]
    exact fun hmem => hne (List.mem_singleton.1 hmem).symm
  · rcases hd with rfl | rfl
    · exact hreturn
    · exact hfeed

/-- Escaping leaves no special characters but the ampersands of entities. -/
theorem not_mem_escapeChar_of_special {d : Char} (hd : isSpecial d = true) (hamp : d ≠ '&')
    (c : Char) : d ∉ escapeChar c := by
  cases hspecial : isSpecial c with
  | false =>
    rw [escapeChar_of_not_special hspecial, List.mem_singleton]
    rintro rfl
    rw [hspecial] at hd
    cases hd
  | true =>
    have hentities : ∀ e ∈ entities,
        specialChars.all (fun s => s == '&' || !e.toList.contains s) = true := by decide
    obtain ⟨entity, hentity, hescape⟩ := escapeChar_of_special hspecial
    rw [hescape]
    have hnone := List.all_eq_true.1 (hentities entity hentity) d (mem_specialChars_iff.2 hd)
    simpa [hamp] using hnone

/-- Text without special characters is escaped as it is. -/
theorem escapeText_eq_self {cs : List Char} (h : ∀ c ∈ cs, isSpecial c = false) :
    escapeText cs = cs := by
  induction cs with
  | nil => rfl
  | cons c cs ih =>
    rw [escapeText, List.flatMap_cons, escapeChar_of_not_special (h c List.mem_cons_self),
      ← escapeText, ih fun d hd => h d (List.mem_cons_of_mem c hd), List.singleton_append]

/-! ## Line breaks -/

theorem lineFeeds_cons_of_ne {c : Char} (h : c ≠ '\r') (cs : List Char) :
    lineFeeds (c :: cs) = c :: lineFeeds cs := by
  rw [lineFeeds]
  · rw [if_neg h]
  · rintro rest rfl
    exact absurd rfl h

theorem head?_escapeText_ne {cs : List Char} (h : cs.head? ≠ some '\n') :
    (escapeText cs).head? ≠ some '\n' := by
  cases cs with
  | nil => exact h
  | cons c cs =>
    rw [escapeText, List.flatMap_cons]
    rcases escapeChar_eq_self_or c with hself | ⟨hne, -, hfeed⟩
    · rw [hself]
      exact h
    · rw [List.head?_append_of_ne_nil _ hne]
      exact fun hhead => hfeed (List.mem_of_head? hhead)

theorem lineFeeds_return {cs : List Char} (h : cs.head? ≠ some '\n') :
    lineFeeds ('\r' :: cs) = '\n' :: lineFeeds cs := by
  rw [lineFeeds]
  · rfl
  · rintro rest - rfl
    exact h rfl

/-- Line breaks are brought to one style piece by piece, unless a pair is cut in two. -/
theorem lineFeeds_append_of_ne {xs ys : List Char}
    (h : xs.getLast? ≠ some '\r' ∨ ys.head? ≠ some '\n') :
    lineFeeds (xs ++ ys) = lineFeeds xs ++ lineFeeds ys := by
  induction xs using lineFeeds.induct with
  | case1 => rfl
  | case2 cs ih =>
    have hcs : cs.getLast? ≠ some '\r' ∨ ys.head? ≠ some '\n' := by
      refine h.imp_left fun hlast hcs => hlast ?_
      rw [List.getLast?_cons_cons, List.getLast?_cons, hcs, Option.getD_some]
    rw [List.cons_append, List.cons_append, lineFeeds, lineFeeds, ih hcs, List.cons_append]
  | case3 c cs hpair ih =>
    have hcs : cs.getLast? ≠ some '\r' ∨ ys.head? ≠ some '\n' := by
      refine h.imp_left fun hlast hcs => hlast ?_
      rw [List.getLast?_cons, hcs, Option.getD_some]
    by_cases hc : c = '\r'
    · subst hc
      have hhead : cs.head? ≠ some '\n' := by
        intro hhead
        obtain ⟨rest, rfl⟩ := List.head?_eq_some_iff.1 hhead
        exact hpair rest rfl rfl
      -- the return may be the last of its piece, and then the next one begins with no line feed
      have hnext : (cs ++ ys).head? ≠ some '\n' := by
        cases cs with
        | nil => exact h.resolve_left fun hlast => hlast rfl
        | cons d cs => exact hhead
      rw [List.cons_append, lineFeeds_return hnext, lineFeeds_return hhead, ih hcs,
        List.cons_append]
    · rw [List.cons_append, lineFeeds_cons_of_ne hc, lineFeeds_cons_of_ne hc, ih hcs,
        List.cons_append]

theorem lineFeeds_eq_self {cs : List Char} (h : '\r' ∉ cs) : lineFeeds cs = cs := by
  induction cs with
  | nil => rfl
  | cons c cs ih =>
    have hc : c ≠ '\r' := fun hc => h (hc ▸ List.mem_cons_self)
    rw [lineFeeds_cons_of_ne hc, ih fun hmem => h (List.mem_cons_of_mem c hmem)]

theorem lineFeeds_append {before : List Char} (h : '\r' ∉ before) (cs : List Char) :
    lineFeeds (before ++ cs) = before ++ lineFeeds cs := by
  rw [lineFeeds_append_of_ne (Or.inl fun hlast => h (List.mem_of_getLast? hlast)),
    lineFeeds_eq_self h]

/-- Escaping and bringing line breaks to one style may change places. -/
theorem lineFeeds_escapeText (cs : List Char) :
    lineFeeds (escapeText cs) = escapeText (lineFeeds cs) := by
  induction cs using lineFeeds.induct with
  | case1 => rfl
  | case2 cs ih =>
    show lineFeeds ('\r' :: '\n' :: escapeText cs) = escapeText ('\n' :: lineFeeds cs)
    rw [lineFeeds, ih]
    rfl
  | case3 c cs hpair ih =>
    by_cases hc : c = '\r'
    · subst hc
      -- a return alone stays alone: what follows is escaped to no line feed either
      have hhead : cs.head? ≠ some '\n' := by
        intro hhead
        obtain ⟨rest, rfl⟩ := List.head?_eq_some_iff.1 hhead
        exact hpair rest rfl rfl
      show lineFeeds ('\r' :: escapeText cs) = _
      rw [lineFeeds_return (head?_escapeText_ne hhead), lineFeeds_return hhead, ih]
      rfl
    · rw [lineFeeds_cons_of_ne hc, escapeText, List.flatMap_cons,
        lineFeeds_append (not_mem_escapeChar (Or.inl rfl) hc), ← escapeText, ih]
      rfl

theorem not_mem_lineFeeds (cs : List Char) : '\r' ∉ lineFeeds cs := by
  induction cs using lineFeeds.induct with
  | case1 => exact List.not_mem_nil
  | case2 cs ih =>
    rw [lineFeeds]
    exact List.not_mem_cons_of_ne_of_not_mem (by decide) ih
  | case3 c cs hpair ih =>
    rw [lineFeeds]
    · refine List.not_mem_cons_of_ne_of_not_mem ?_ ih
      split
      case isTrue => decide
      case isFalse hc => exact Ne.symm hc
    · exact hpair

/-- A character of a literal, where a line feed is an element. -/
def literalChar (c : Char) : List Char :=
  if c = '\n' then "<br>".toList else escapeChar c

theorem flatMap_breakChar_escapeChar (c : Char) :
    (escapeChar c).flatMap breakChar = literalChar c := by
  by_cases hc : c = '\n'
  · subst hc
    rfl
  · have hself : ∀ d ∈ escapeChar c, breakChar d = [d] := by
      intro d hd
      apply if_neg
      rintro rfl
      exact not_mem_escapeChar (Or.inr rfl) hc hd
    rw [literalChar, if_neg hc, List.flatMap_congr hself, List.flatMap_singleton']

/-- A literal is made from character to character once its line breaks are line feeds. -/
theorem breakLines_escapeText (cs : List Char) :
    breakLines (escapeText cs) = (lineFeeds cs).flatMap literalChar := by
  rw [breakLines, lineFeeds_escapeText, escapeText, List.flatMap_assoc]
  exact List.flatMap_congr fun c _ => flatMap_breakChar_escapeChar c

/-- How a literal shows, from character to character. -/
theorem text_literal (text : String) :
    (literal text).text = String.ofList ((lineFeeds text.toList).flatMap literalChar) := by
  rw [literal, Safe.lineBreaks, Safe.escape, String.toList_ofList, breakLines_escapeText]

end Html
end BracketMark
