/-!
# Escaping

The five characters that mean something in markup are written as entities; everything else,
slashes included, stands for itself.  Line breaks of all three styles become `<br>`: they
are first brought to one style, so that a carriage return and the line feed after it are one
break and not two.
-/

namespace BracketMark
namespace Html

/-- A character as it stands in escaped text. -/
def escapeChar (c : Char) : List Char :=
  if c = '&' then "&amp;".toList
  else if c = '<' then "&lt;".toList
  else if c = '>' then "&gt;".toList
  else if c = '"' then "&quot;".toList
  else if c = '\'' then "&#x27;".toList
  else [c]

/-- Text with the five characters of markup as entities. -/
def escapeText (cs : List Char) : List Char :=
  cs.flatMap escapeChar

/-- Text with every line break a line feed: a carriage return and a line feed together, or
    a carriage return alone, count as one. -/
def lineFeeds : List Char → List Char
  | [] => []
  | '\r' :: '\n' :: cs => '\n' :: lineFeeds cs
  | c :: cs => (if c = '\r' then '\n' else c) :: lineFeeds cs

/-- A line feed as a `<br>` element. -/
def breakChar (c : Char) : List Char :=
  if c = '\n' then "<br>".toList else [c]

/-- Text with every line break a `<br>` element. -/
def breakLines (cs : List Char) : List Char :=
  (lineFeeds cs).flatMap breakChar

/-- A character as it stands in an escaped list: as in escaped text, and the slash is an
    entity too. -/
def escapeListChar (c : Char) : List Char :=
  if c = '/' then "&#x2f;".toList else escapeChar c

end Html
end BracketMark
