import BracketMark.Html.Safe
import BracketMark.Proofs.Html.Escape

/-!
# The text in HTML

What is left of HTML once its tags are taken out and its entities are read (`innerText`), said
without looking at how HTML is made.  Taking out the tags is a run over the characters that is
inside a tag or outside of one, so a piece of HTML is described by where it takes the run, and by
the text that it leaves on the way, still escaped (`Takes`).  Pieces in a row need no other law
than `Takes.append`.

Entities are read once.  This undoes one escaping (`readEntities_escapeText`), and text that was
escaped twice would still have entities in it.
-/

namespace BracketMark
namespace Html

/-! ## Reading HTML -/

/-- The characters that are in no tag, with a line feed for each `<br>`; the run begins inside a
    tag or not. -/
def stripTags : Bool → List Char → List Char
  | _, [] => []
  | true, c :: cs => stripTags (c != '>') cs
  | false, '<' :: 'b' :: 'r' :: '>' :: cs => '\n' :: stripTags false cs
  | false, c :: cs => if c = '<' then stripTags true cs else c :: stripTags false cs

/-- Each of the five entities as its character. -/
def readEntities : List Char → List Char
  | [] => []
  | '&' :: 'a' :: 'm' :: 'p' :: ';' :: cs => '&' :: readEntities cs
  | '&' :: 'l' :: 't' :: ';' :: cs => '<' :: readEntities cs
  | '&' :: 'g' :: 't' :: ';' :: cs => '>' :: readEntities cs
  | '&' :: 'q' :: 'u' :: 'o' :: 't' :: ';' :: cs => '"' :: readEntities cs
  | '&' :: '#' :: 'x' :: '2' :: '7' :: ';' :: cs => '\'' :: readEntities cs
  | c :: cs => c :: readEntities cs

/-- The text in HTML: its tags taken out, then its entities read. -/
def innerText (html : String) : String :=
  String.ofList (readEntities (stripTags false html.toList))

/-! ## Tags -/

theorem stripTags_false_cons {c : Char} (h : c ≠ '<') (cs : List Char) :
    stripTags false (c :: cs) = c :: stripTags false cs := by
  rw [stripTags]
  · rw [if_neg h]
  · rintro rest rfl
    exact absurd rfl h

theorem stripTags_false_append {cs : List Char} (h : '<' ∉ cs) (rest : List Char) :
    stripTags false (cs ++ rest) = cs ++ stripTags false rest := by
  induction cs with
  | nil => rfl
  | cons c cs ih =>
    rw [List.mem_cons, not_or] at h
    rw [List.cons_append, stripTags_false_cons (Ne.symm h.1), ih h.2, List.cons_append]

theorem stripTags_true_append {cs : List Char} (h : '>' ∉ cs) (rest : List Char) :
    stripTags true (cs ++ rest) = stripTags true rest := by
  induction cs with
  | nil => rfl
  | cons c cs ih =>
    rw [List.mem_cons, not_or] at h
    rw [List.cons_append, stripTags, bne_iff_ne.2 (Ne.symm h.1), ih h.2]

/-- Escaping leaves nothing that begins or ends a tag. -/
theorem not_mem_escapeChar_of_angle {angle : Char} (hangle : angle = '<' ∨ angle = '>')
    (c : Char) : angle ∉ escapeChar c := by
  rcases hangle with rfl | rfl
  · exact not_mem_escapeChar_of_special rfl (by decide) c
  · exact not_mem_escapeChar_of_special rfl (by decide) c

theorem not_mem_escapeText_of_angle {angle : Char} (hangle : angle = '<' ∨ angle = '>')
    (cs : List Char) : angle ∉ escapeText cs := by
  intro hmem
  obtain ⟨c, -, hc⟩ := List.mem_flatMap.1 hmem
  exact not_mem_escapeChar_of_angle hangle c hc

theorem stripTags_literalChar (c : Char) (rest : List Char) :
    stripTags false (literalChar c ++ rest) = escapeChar c ++ stripTags false rest := by
  rw [literalChar]
  split
  case isTrue hc =>
    subst hc
    rfl
  case isFalse =>
    exact stripTags_false_append (not_mem_escapeChar_of_angle (Or.inl rfl) c) rest

/-! ## Entities -/

theorem readEntities_cons {c : Char} (h : c ≠ '&') (cs : List Char) :
    readEntities (c :: cs) = c :: readEntities cs := by
  rw [readEntities]
  all_goals
    rintro rest rfl
    exact absurd rfl h

theorem readEntities_escapeChar (c : Char) (cs : List Char) :
    readEntities (escapeChar c ++ cs) = c :: readEntities cs := by
  cases hspecial : isSpecial c with
  | false =>
    have hne : c ≠ '&' := by
      rintro rfl
      cases hspecial
    rw [escapeChar_of_not_special hspecial]
    exact readEntities_cons hne cs
  | true =>
    have hmem := mem_specialChars_iff.2 hspecial
    simp only [specialChars, List.mem_cons, List.not_mem_nil, or_false] at hmem
    rcases hmem with rfl | rfl | rfl | rfl | rfl
    · rfl
    · rfl
    · rfl
    · rfl
    · rfl

/-- **Reading the entities once undoes escaping once.** -/
theorem readEntities_escapeText (cs : List Char) : readEntities (escapeText cs) = cs := by
  induction cs with
  | nil => rfl
  | cons c cs ih =>
    rw [escapeText, List.flatMap_cons, readEntities_escapeChar, ← escapeText, ih]

/-! ## Pieces of HTML -/

/-- `Takes inside inside' html text`: a run that is inside a tag or not before this HTML is so
    behind it, and between the two it leaves this text escaped. -/
def Takes (inside inside' : Bool) (html text : String) : Prop :=
  ∀ rest, stripTags inside (html.toList ++ rest) =
    escapeText text.toList ++ stripTags inside' rest

variable {inside inside' inside'' : Bool} {html html' text text' : String}

theorem Takes.append (h : Takes inside inside' html text)
    (h' : Takes inside' inside'' html' text') :
    Takes inside inside'' (html ++ html') (text ++ text') := by
  intro rest
  have htext : escapeText (text ++ text').toList =
      escapeText text.toList ++ escapeText text'.toList := by
    rw [String.toList_append, escapeText, List.flatMap_append]
    rfl
  rw [String.toList_append, List.append_assoc, h, h', htext, List.append_assoc]

theorem takes_empty : Takes inside inside "" "" :=
  fun _ => rfl

/-- Escaped text outside of tags is text. -/
theorem takes_escape (text : String) : Takes false false (Safe.escape text).text text := by
  intro rest
  rw [Safe.escape, String.toList_ofList]
  exact stripTags_false_append (not_mem_escapeText_of_angle (Or.inl rfl) _) rest

/-- Escaped text in a tag does not end it, and is no text. -/
theorem takes_escape_inside (text : String) : Takes true true (Safe.escape text).text "" := by
  intro rest
  rw [Safe.escape, String.toList_ofList]
  exact stripTags_true_append (not_mem_escapeText_of_angle (Or.inr rfl) _) rest

/-- **A literal is its text**, its line breaks of one style. -/
theorem takes_literal (text : String) :
    Takes false false (literal text).text (String.ofList (lineFeeds text.toList)) := by
  intro rest
  rw [text_literal, String.toList_ofList, String.toList_ofList]
  induction lineFeeds text.toList with
  | nil => rfl
  | cons c cs ih =>
    rw [List.flatMap_cons, List.append_assoc, stripTags_literalChar, ih, escapeText, escapeText,
      List.flatMap_cons, List.append_assoc]

/-- What a run leaves of HTML from beginning to end, with its entities read, is the text. -/
theorem innerText_eq (h : Takes false inside html text) : innerText html = text := by
  have hstrip : stripTags false html.toList = escapeText text.toList := by
    have hhtml := h []
    have hnil : stripTags inside [] = [] := by rw [stripTags]
    rwa [hnil, List.append_nil, List.append_nil] at hhtml
  rw [innerText, hstrip, readEntities_escapeText, String.ofList_toList]

end Html
end BracketMark
