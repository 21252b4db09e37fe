import BracketMark.Template.Eval
import BracketMark.Proofs.Html.InnerText
import BracketMark.Proofs.Text.Replace

/-!
# Reading a literal back

A literal is made in four rewritings of the whole text: the special characters become entities,
pairs of a carriage return and a line feed become line feeds, the carriage returns that are left
become line feeds too, and line feeds become elements.  The first of these neither makes nor parts
a line break, so all four together go from character to character once the line breaks are of one
style (`toList_literal`), and can be read back in one pass (`readLiteral`).

What is shown is therefore the text up to the style of its line breaks, no less and no more; and
since no line break is left in it, breaking its lines again does nothing (`breakLines_breakLines`).
-/

namespace BracketMark
namespace Html

open Text Template

/-! ## Line breaks of one style -/

/-- The text with line feeds for all line breaks: first for the pairs, then for the carriage
    returns that are left. -/
def oneStyle (cs : List Char) : List Char :=
  replaceAll ['\r'] ['\n'] (replaceAll ['\r', '\n'] ['\n'] cs)

/-- One pass over the text does the same. -/
theorem lineFeeds_eq_oneStyle (cs : List Char) : lineFeeds cs = oneStyle cs := by
  unfold oneStyle
  rw [replaceAll_singleton]
  induction cs using lineFeeds.induct with
  | case1 => simp [lineFeeds]
  | case2 cs ih =>
    have hpair : ['\r', '\n'].isPrefixOf ('\r' :: '\n' :: cs) = true := by simp [List.isPrefixOf]
    rw [lineFeeds, ih, replaceAll_of_begins hpair]
    rfl
  | case3 c cs hpair ih =>
    have hnot : ['\r', '\n'].isPrefixOf (c :: cs) = false := by
      rw [Bool.eq_false_iff]
      intro hprefix
      obtain ⟨rest, hrest⟩ := List.isPrefixOf_iff_prefix.1 hprefix
      obtain ⟨rfl, rfl⟩ := List.cons.inj hrest
      exact hpair rest rfl rfl
    rw [lineFeeds, ih, replaceAll_of_not_begins hnot, List.flatMap_cons]
    · split
      · rfl
      · rfl
    · exact hpair

theorem notMem_oneStyle (cs : List Char) : '\r' ∉ oneStyle cs :=
  notMem_replaceAll (by decide) _

theorem breakLines_eq_replaceAll (cs : List Char) :
    breakLines cs = replaceAll ['\n'] "<br>".toList (oneStyle cs) := by
  rw [breakLines, lineFeeds_eq_oneStyle, replaceAll_singleton]
  rfl

theorem toList_literal (text : String) :
    (literal text).text.toList = (oneStyle text.toList).flatMap literalChar := by
  rw [text_literal, String.toList_ofList, lineFeeds_eq_oneStyle]

/-! ## Reading -/

/-- The text of a literal, read once from left to right: an element is a line feed, and an entity
    is its character. -/
def readLiteral : List Char → List Char
  | [] => []
  | '<' :: 'b' :: 'r' :: '>' :: cs => '\n' :: readLiteral cs
  | '&' :: 'a' :: 'm' :: 'p' :: ';' :: cs => '&' :: readLiteral cs
  | '&' :: 'l' :: 't' :: ';' :: cs => '<' :: readLiteral cs
  | '&' :: 'g' :: 't' :: ';' :: cs => '>' :: readLiteral cs
  | '&' :: 'q' :: 'u' :: 'o' :: 't' :: ';' :: cs => '"' :: readLiteral cs
  | '&' :: '#' :: 'x' :: '2' :: '7' :: ';' :: cs => '\'' :: readLiteral cs
  | c :: cs => c :: readLiteral cs

theorem readLiteral_cons {c : Char} (hamp : c ≠ '&') (hless : c ≠ '<') (cs : List Char) :
    readLiteral (c :: cs) = c :: readLiteral cs := by
  rw [readLiteral]
  case x_1 =>
    rintro rest rfl
    exact absurd rfl hless
  all_goals
    rintro rest rfl
    exact absurd rfl hamp

theorem readLiteral_literalChar (c : Char) (cs : List Char) :
    readLiteral (literalChar c ++ cs) = c :: readLiteral cs := by
  unfold literalChar
  split
  · next hc =>
    subst hc
    rfl
  · cases hspecial : isSpecial c with
    | false =>
      rw [escapeChar_of_not_special hspecial]
      apply readLiteral_cons
      · rintro rfl
        cases hspecial
      · rintro rfl
        cases hspecial
    | true =>
      have hmem := mem_specialChars_iff.2 hspecial
      simp only [specialChars, List.mem_cons, List.not_mem_nil, or_false] at hmem
      rcases hmem with rfl | rfl | rfl | rfl | rfl
      · rfl
      · rfl
      · rfl
      · rfl
      · rfl

theorem readLiteral_flatMap (cs : List Char) : readLiteral (cs.flatMap literalChar) = cs := by
  induction cs with
  | nil => rfl
  | cons c cs ih => rw [List.flatMap_cons, readLiteral_literalChar, ih]

/-! ## The characters of a literal -/

/-- No line break and no quote, and angle brackets and ampersands only in `<br>` and in entities. -/
structure IsLiteral (html : List Char) : Prop where
  noReturn : '\r' ∉ html
  noFeed : '\n' ∉ html
  noQuote : '"' ∉ html
  noApostrophe : '\'' ∉ html
  less : ∀ before after, html = before ++ '<' :: after → "br>".toList <+: after
  greater : ∀ before after, html = before ++ '>' :: after → "<br".toList <:+ before
  ampersand : ∀ before after, html = before ++ '&' :: after →
    ∃ entity ∈ entities, entity.toList <+: '&' :: after

/-- A character of a text that is made piece by piece stands in one of the pieces. -/
theorem exists_piece {f : Char → List Char} {cs before after : List Char} {d : Char}
    (h : cs.flatMap f = before ++ d :: after) :
    ∃ c ∈ cs, ∃ front back, f c = front ++ d :: back ∧ front <:+ before ∧ back <+: after := by
  induction cs generalizing before with
  | nil => simp at h
  | cons c cs ih =>
    rw [List.flatMap_cons, List.append_eq_append_iff] at h
    rcases h with ⟨middle, rfl, hrest⟩ | ⟨middle, hpiece, hrest⟩
    · obtain ⟨e, he, front, back, hf, hfront, hback⟩ := ih hrest
      exact ⟨e, List.mem_cons_of_mem c he, front, back, hf,
        hfront.trans (List.suffix_append _ _), hback⟩
    · cases middle with
      | nil =>
        have hbegin : cs.flatMap f = [] ++ d :: after := hrest.symm
        obtain ⟨e, he, front, back, hf, hfront, hback⟩ := ih hbegin
        exact ⟨e, List.mem_cons_of_mem c he, front, back, hf,
          hfront.trans List.nil_suffix, hback⟩
      | cons e back =>
        obtain ⟨rfl, rfl⟩ := List.cons.inj hrest
        exact ⟨c, List.mem_cons_self, before, back, hpiece, List.suffix_rfl,
          List.prefix_append _ _⟩

section

variable {c : Char} {front back : List Char}

theorem literalChar_of_less (h : literalChar c = front ++ '<' :: back) : back = "br>".toList := by
  unfold literalChar at h
  split at h
  · have hsplit : [] ++ '<' :: "br>".toList = front ++ '<' :: back := h
    rw [List.append_cons_inj_of_notMem (by simp) (by decide)] at hsplit
    exact hsplit.2.2.symm
  · exact absurd (h ▸ by simp) (not_mem_escapeChar_of_angle (Or.inl rfl) c)

theorem literalChar_of_greater (h : literalChar c = front ++ '>' :: back) :
    front = "<br".toList := by
  unfold literalChar at h
  split at h
  · have hsplit : "<br".toList ++ '>' :: [] = front ++ '>' :: back := h
    rw [List.append_cons_inj_of_notMem (by decide) (by simp)] at hsplit
    exact hsplit.1.symm
  · exact absurd (h ▸ by simp) (not_mem_escapeChar_of_angle (Or.inr rfl) c)

theorem literalChar_of_ampersand (h : literalChar c = front ++ '&' :: back) :
    ∃ entity ∈ entities, entity.toList = '&' :: back := by
  have hmem : '&' ∈ literalChar c := by simp [h]
  unfold literalChar at h hmem
  split at h
  · next hc =>
    rw [if_pos hc] at hmem
    exact absurd hmem (by decide)
  · next hc =>
    rw [if_neg hc] at hmem
    cases hspecial : isSpecial c with
    | false =>
      rw [escapeChar_of_not_special hspecial, List.mem_singleton] at hmem
      subst hmem
      cases hspecial
    | true =>
      obtain ⟨entity, hentity, hescape⟩ := escapeChar_of_special hspecial
      have hform : ∀ e ∈ entities, e.toList = '&' :: e.toList.tail ∧ '&' ∉ e.toList.tail := by
        decide
      obtain ⟨hbegin, honce⟩ := hform entity hentity
      refine ⟨entity, hentity, ?_⟩
      have hsplit : [] ++ '&' :: entity.toList.tail = front ++ '&' :: back := by
        rw [List.nil_append, ← hbegin, ← hescape, h]
      rw [List.append_cons_inj_of_notMem (by simp) honce] at hsplit
      rw [hbegin, hsplit.2.2]

end

theorem notMem_literalChar {c d : Char} (hd : d ∉ "<br>".toList)
    (hescape : c ≠ '\n' → d ∉ escapeChar c) : d ∉ literalChar c := by
  unfold literalChar
  split
  · exact hd
  · next hc => exact hescape hc

/-- **What is made character by character from text without carriage returns** is a literal. -/
theorem isLiteral_flatMap {cs : List Char} (h : '\r' ∉ cs) : IsLiteral (cs.flatMap literalChar) := by
  have hnone : ∀ d, (∀ c ∈ cs, d ∉ literalChar c) → d ∉ cs.flatMap literalChar := by
    intro d hd hmem
    obtain ⟨c, hc, hpiece⟩ := List.mem_flatMap.1 hmem
    exact hd c hc hpiece
  constructor
  case noReturn =>
    apply hnone
    intro c hc
    apply notMem_literalChar (by decide)
    intro _
    apply not_mem_escapeChar (Or.inl rfl)
    rintro rfl
    exact h hc
  case noFeed =>
    apply hnone
    intro c _
    exact notMem_literalChar (by decide) (not_mem_escapeChar (Or.inr rfl))
  case noQuote =>
    apply hnone
    intro c _
    exact notMem_literalChar (by decide) fun _ =>
      not_mem_escapeChar_of_special rfl (by decide) c
  case noApostrophe =>
    apply hnone
    intro c _
    exact notMem_literalChar (by decide) fun _ =>
      not_mem_escapeChar_of_special rfl (by decide) c
  case less =>
    intro before after hhtml
    obtain ⟨c, -, front, back, hpiece, -, hback⟩ := exists_piece hhtml
    rwa [literalChar_of_less hpiece] at hback
  case greater =>
    intro before after hhtml
    obtain ⟨c, -, front, back, hpiece, hfront, -⟩ := exists_piece hhtml
    rwa [literalChar_of_greater hpiece] at hfront
  case ampersand =>
    intro before after hhtml
    obtain ⟨c, -, front, back, hpiece, -, hback⟩ := exists_piece hhtml
    obtain ⟨entity, hentity, hspelled⟩ := literalChar_of_ampersand hpiece
    refine ⟨entity, hentity, ?_⟩
    rw [hspelled]
    exact List.cons_prefix_cons.2 ⟨rfl, hback⟩

/-! ## Breaking lines twice -/

/-- Once the lines are broken, there is nothing left to break. -/
theorem breakLines_breakLines (cs : List Char) : breakLines (breakLines cs) = breakLines cs := by
  have hreturn : '\r' ∉ breakLines cs := by
    rw [breakLines_eq_replaceAll, replaceAll_singleton, List.mem_flatMap]
    rintro ⟨c, hc, hmem⟩
    split at hmem
    · exact absurd hmem (by decide)
    · exact notMem_oneStyle cs (List.mem_singleton.1 hmem ▸ hc)
  have hfeed : '\n' ∉ breakLines cs := by
    rw [breakLines_eq_replaceAll]
    exact notMem_replaceAll (by decide) _
  rw [breakLines_eq_replaceAll (breakLines cs), ← lineFeeds_eq_oneStyle, lineFeeds_eq_self hreturn,
    replaceAll_of_notMem hfeed]

/-- **Breaking lines is done once and for all**, whatever the filter is given. -/
theorem applyFilter_lineBreaks (datum : Datum) :
    ∃ html, applyFilter "linebreaksbr" datum = some (.safe html) ∧
      applyFilter "linebreaksbr" (.value (.safe html)) = some (.safe html) := by
  refine ⟨datum.toSafe.lineBreaks, rfl, ?_⟩
  show some (Value.safe datum.toSafe.lineBreaks.lineBreaks) = _
  rw [Safe.lineBreaks, Safe.lineBreaks, String.toList_ofList, breakLines_breakLines]

/-! ## The whole literal -/

/-- **A literal is safe and says its text.**  It is the outcome of four rewritings of the whole text;
    no line break and no quote is left in it, and angle brackets and ampersands only in line break
    elements and entities; it reads back as the text with line breaks of one style, so two texts
    show alike exactly if they differ in the style of their line breaks at most; and breaking the
    lines of a datum twice is breaking them once. -/
theorem literal_decodable (text : String) :
    let html := (literal text).text.toList
    html = replaceAll ['\n'] "<br>".toList (oneStyle (escapeText text.toList)) ∧
      IsLiteral html ∧ readLiteral html = oneStyle text.toList ∧
      (∀ other, literal other = literal text ↔ oneStyle other.toList = oneStyle text.toList) ∧
      ∀ datum, ∃ broken, applyFilter "linebreaksbr" datum = some (.safe broken) ∧
        applyFilter "linebreaksbr" (.value (.safe broken)) = some (.safe broken) := by
  intro html
  have hread (s : String) : readLiteral (literal s).text.toList = oneStyle s.toList := by
    rw [toList_literal, readLiteral_flatMap]
  refine ⟨?_, ?_, hread text, fun other => ?_, applyFilter_lineBreaks⟩
  · rw [← breakLines_eq_replaceAll]
    simp [html, literal, Safe.lineBreaks, Safe.escape]
  · show IsLiteral (literal text).text.toList
    rw [toList_literal]
    exact isLiteral_flatMap (notMem_oneStyle text.toList)
  · constructor
    · intro h
      rw [← hread, ← hread, h]
    · intro h
      have hlist : (literal other).text.toList = (literal text).text.toList := by
        rw [toList_literal, toList_literal, h]
      exact congrArg Safe.mk (String.toList_inj.1 hlist)

/-- A return before a pair is a break of its own, and what looks like an entity is none. -/
example : (literal "a\r\r\n&lt;").text = "a<br><br>&amp;lt;" ∧
    readLiteral "a<br><br>&amp;lt;".toList = "a\n\n&lt;".toList := by decide +kernel

end Html
end BracketMark
