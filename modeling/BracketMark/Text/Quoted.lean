import BracketMark.Text.Decimal
import BracketMark.Text.Visible

/-!
# Quoted text

A text in double quotes, with every character that would not show, or would end the quote,
written as an escape: the usual letters for NUL, tab and the line breaks, a backslash before
quote and backslash, and `\u{…}` with the code point in hexadecimal for the rest.
-/

namespace BracketMark
namespace Text

/-- A character inside a quoted text. -/
def quoteChar (c : Char) : List Char :=
  if c = '\x00' then ['\\', '0']
  else if c = '\t' then ['\\', 't']
  else if c = '\r' then ['\\', 'r']
  else if c = '\n' then ['\\', 'n']
  else if c = '"' then ['\\', '"']
  else if c = '\\' then ['\\', '\\']
  else if isVisible c then [c]
  else '\\' :: 'u' :: '\x7b' :: hexadecimal c.toNat ++ ['\x7d']

def quoted (s : String) : String :=
  String.ofList ('"' :: s.toList.flatMap quoteChar ++ ['"'])

end Text
end BracketMark
