import BracketMark.Html.Escape

/-!
# Safe text

HTML that is finished: it is already escaped and must not be escaped again.  Plain text
becomes safe text by `Safe.escape`, or by being declared safe with the constructor.
-/

namespace BracketMark
namespace Html

/-- Text that may be embedded in HTML as it is. -/
structure Safe where
  text : String
  deriving DecidableEq

namespace Safe

def empty : Safe := ⟨""⟩

instance : Inhabited Safe := ⟨empty⟩

def escape (text : String) : Safe :=
  ⟨String.ofList (escapeText text.toList)⟩

/-- Safe text with its line breaks as `<br>` elements. -/
def lineBreaks (html : Safe) : Safe :=
  ⟨String.ofList (breakLines html.text.toList)⟩

def append (a b : Safe) : Safe := ⟨a.text ++ b.text⟩

instance : Append Safe := ⟨append⟩

def join (pieces : List Safe) : Safe :=
  pieces.foldl (· ++ ·) empty

def bytes (html : Safe) : Nat := html.text.utf8ByteSize

end Safe

/-- How a literal text shows: escaped, its line breaks kept. -/
def literal (text : String) : Safe :=
  (Safe.escape text).lineBreaks

end Html
end BracketMark
