import BracketMark.Html.Safe
import BracketMark.Tag.Formatting
import BracketMark.Tag.Links
import BracketMark.Proofs.Html.Escape

/-!
# The grammar of finished HTML

Finished HTML is text, line breaks and a few elements, which are properly nested, and whatever
in it came from markup has been escaped.  The grammar is written down without looking at how
HTML is made (`Flow`), so that it can be compared with what a browser would read.

A text that stands in an attribute, or as the author of a quotation, is escaped as well, but
keeps its line breaks (`Escaped`).
-/

namespace BracketMark
namespace Html

open Tag

/-! ## Grammar -/

/-- Characters that mean nothing in markup, and entities. -/
inductive Escaped : String → Prop
  | empty : Escaped ""
  | char {c : Char} {rest : String} (hc : isSpecial c = false) (hrest : Escaped rest) :
      Escaped (String.singleton c ++ rest)
  | entity {entity rest : String} (hentity : entity ∈ entities) (hrest : Escaped rest) :
      Escaped (entity ++ rest)

def IsDimension (text : String) : Prop := Links.isPixels text.toList = true

/-- `Attribute name Value html`: the HTML is nothing, or the attribute with such a value. -/
inductive Attribute (name : String) (Value : String → Prop) : String → Prop
  | absent : Attribute name Value ""
  | present {value : String} (hvalue : Value value) :
      Attribute name Value (" " ++ name ++ "=\"" ++ value ++ "\"")

/-- Nothing, or the author of a quotation. -/
inductive Cite : String → Prop
  | absent : Cite ""
  | present {author : String} (hauthor : Escaped author) :
      Cite ("<cite>" ++ author ++ "</cite>")

/-- The elements without attributes. -/
def plainElements : List String := ["strong", "em", "u", "del", "code"]

/-- Finished HTML. -/
inductive Flow : String → Prop
  | empty : Flow ""
  | char {c : Char} {rest : String} (hc : isSpecial c = false) (hreturn : c ≠ '\r')
      (hfeed : c ≠ '\n') (hrest : Flow rest) : Flow (String.singleton c ++ rest)
  | entity {entity rest : String} (hentity : entity ∈ entities) (hrest : Flow rest) :
      Flow (entity ++ rest)
  | lineBreak {rest : String} (hrest : Flow rest) : Flow ("<br>" ++ rest)
  | element {name inner rest : String} (hname : name ∈ plainElements) (hinner : Flow inner)
      (hrest : Flow rest) :
      Flow ("<" ++ name ++ ">" ++ inner ++ "</" ++ name ++ ">" ++ rest)
  | span {color inner rest : String} (hcolor : Formatting.isColor color.toList = true)
      (hinner : Flow inner) (hrest : Flow rest) :
      Flow ("<span style=\"color: " ++ color ++ "\">" ++ inner ++ "</span>" ++ rest)
  | link {href inner rest : String} (hhref : Escaped href) (hinner : Flow inner)
      (hrest : Flow rest) : Flow ("<a href=\"" ++ href ++ "\">" ++ inner ++ "</a>" ++ rest)
  | quotation {cite inner rest : String} (hcite : Cite cite) (hinner : Flow inner)
      (hrest : Flow rest) :
      Flow ("<blockquote>" ++ cite ++ inner ++ "</blockquote>" ++ rest)
  | image {src alt width height rest : String} (hsrc : Escaped src)
      (halt : Attribute "alt" Escaped alt) (hwidth : Attribute "width" IsDimension width)
      (hheight : Attribute "height" IsDimension height) (hrest : Flow rest) :
      Flow ("<img src=\"" ++ src ++ "\"" ++ alt ++ width ++ height ++ ">" ++ rest)

/-! ## Words of the grammar -/

/-- Finished HTML may be followed by finished HTML. -/
theorem Flow.append {before after : String} (hbefore : Flow before) (hafter : Flow after) :
    Flow (before ++ after) := by
  induction hbefore with
  | empty =>
    rw [String.empty_append]
    exact hafter
  | char hc hreturn hfeed _ ih =>
    rw [String.append_assoc]
    exact .char hc hreturn hfeed ih
  | entity hentity _ ih =>
    rw [String.append_assoc]
    exact .entity hentity ih
  | lineBreak _ ih =>
    rw [String.append_assoc]
    exact .lineBreak ih
  | element hname hinner _ _ ih =>
    rw [String.append_assoc]
    exact .element hname hinner ih
  | span hcolor hinner _ _ ih =>
    rw [String.append_assoc]
    exact .span hcolor hinner ih
  | link hhref hinner _ _ ih =>
    rw [String.append_assoc]
    exact .link hhref hinner ih
  | quotation hcite hinner _ _ ih =>
    rw [String.append_assoc]
    exact .quotation hcite hinner ih
  | image hsrc halt hwidth hheight _ ih =>
    rw [String.append_assoc]
    exact .image hsrc halt hwidth hheight ih

theorem escaped_escapeText (cs : List Char) : Escaped (String.ofList (escapeText cs)) := by
  induction cs with
  | nil => exact .empty
  | cons c cs ih =>
    rw [escapeText, List.flatMap_cons, String.ofList_append, ← escapeText]
    cases hspecial : isSpecial c with
    | false =>
      rw [escapeChar_of_not_special hspecial]
      exact .char hspecial ih
    | true =>
      obtain ⟨entity, hentity, hescape⟩ := escapeChar_of_special hspecial
      rw [hescape, String.ofList_toList]
      exact .entity hentity ih

theorem escaped_escape (text : String) : Escaped (Safe.escape text).text :=
  escaped_escapeText text.toList

/-- Text without special characters is escaped as it is. -/
theorem escape_eq_self {text : String} (h : ∀ c ∈ text.toList, isSpecial c = false) :
    (Safe.escape text).text = text := by
  rw [Safe.escape, escapeText_eq_self h, String.ofList_toList]

/-- Text that is escaped from character to character, each line feed an element. -/
theorem flow_flatMap_literalChar {cs : List Char} (h : '\r' ∉ cs) :
    Flow (String.ofList (cs.flatMap literalChar)) := by
  induction cs with
  | nil => exact .empty
  | cons c cs ih =>
    have hrest := ih fun hmem => h (List.mem_cons_of_mem c hmem)
    have hreturn : c ≠ '\r' := fun hc => h (hc ▸ List.mem_cons_self)
    rw [List.flatMap_cons, String.ofList_append, literalChar]
    by_cases hfeed : c = '\n'
    · rw [if_pos hfeed, String.ofList_toList]
      exact .lineBreak hrest
    · rw [if_neg hfeed]
      cases hspecial : isSpecial c with
      | false =>
        rw [escapeChar_of_not_special hspecial]
        exact .char hspecial hreturn hfeed hrest
      | true =>
        obtain ⟨entity, hentity, hescape⟩ := escapeChar_of_special hspecial
        rw [hescape, String.ofList_toList]
        exact .entity hentity hrest

/-- **A literal shows as finished HTML.** -/
theorem flow_literal (text : String) : Flow (literal text).text := by
  rw [text_literal]
  exact flow_flatMap_literalChar (not_mem_lineFeeds text.toList)

end Html
end BracketMark
