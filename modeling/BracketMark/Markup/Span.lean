import BracketMark.Text.Blank
import BracketMark.Markup.Keywords

/-!
# Bracketed spans

Where the span that an opening bracket begins comes to its end.  A quote counts only where
it opens a value, right after an equals sign (blanks between do not matter), so that an
apostrophe in running text swallows nothing.  It closes only before a blank, a closing
bracket or the end of the text.  A quote that never closes does not hide the brackets
inside it: the first of them ends the span, as if the quote had not been there.
-/

namespace BracketMark
namespace Markup

open Text

/-- How a bracketed span ends. -/
inductive SpanEnd where
  /-- By a closing bracket, after so many characters of content. -/
  | closed (size : Nat)
  /-- By another opening bracket, after so many characters. -/
  | interrupted (size : Nat)
  /-- By nothing: the text ends first. -/
  | unterminated
  deriving DecidableEq, Repr

/-- Where the search for the end of a span stands. -/
inductive SpanMode where
  /-- Outside quotes; whether the last character that is not blank was an equals sign. -/
  | plain (afterEquals : Bool)
  /-- Inside a quote; how the span ends if this quote never closes. -/
  | quoted (quote : Char) (fallback : SpanEnd)
  deriving DecidableEq, Repr

/-- Whether a quote character closes its quote before the text `rest`. -/
def closesQuote : List Char → Bool
  | [] => true
  | c :: _ => c == ']' || isBlank c

/-- The end a character would give a span outside quotes, `size` characters in. -/
def bracketEnd (size : Nat) (c : Char) : SpanEnd :=
  if c = ']' then .closed size
  else if c = '[' then .interrupted size
  else .unterminated

/-- The first end that is one. -/
def SpanEnd.orElse : SpanEnd → SpanEnd → SpanEnd
  | .unterminated, e => e
  | e, _ => e

/-- The end of a span, from a text `size` characters into it. -/
def spanEndFrom : SpanMode → Nat → List Char → SpanEnd
  | .plain _, _, [] => .unterminated
  | .quoted _ fallback, _, [] => fallback
  | .plain afterEquals, size, c :: rest =>
    match bracketEnd size c with
    | .unterminated =>
      if afterEquals && isQuote c then spanEndFrom (.quoted c .unterminated) (size + 1) rest
      else spanEndFrom (.plain (if isBlank c then afterEquals else c == '=')) (size + 1) rest
    | found => found
  | .quoted quote fallback, size, c :: rest =>
    -- once closed, the quote is the last character that is not blank, and what it hid is hidden
    if c == quote && closesQuote rest then spanEndFrom (.plain false) (size + 1) rest
    else spanEndFrom (.quoted quote (fallback.orElse (bracketEnd size c))) (size + 1) rest

/-- The end of the span whose opening bracket stands right before the text. -/
def spanEnd (cs : List Char) : SpanEnd :=
  spanEndFrom (.plain false) 0 cs

end Markup
end BracketMark
