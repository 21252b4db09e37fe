import BracketMark.Tag.Definition

/-!
# Formatting tags

The library `text`: bold, italic, underlined, struck and code text, and coloured text.  A
colour is `#` with three or six hexadecimal digits, or a bare word; anything else would put
the author's own style sheet into the page and is ignored.
-/

namespace BracketMark
namespace Tag
namespace Formatting

open Text

/-- A hexadecimal digit, in either case. -/
def isHexDigit (c : Char) : Bool :=
  c.isDigit || ('a' ≤ c && c ≤ 'f') || ('A' ≤ c && c ≤ 'F')

/-- `#rgb`, `#rrggbb`, or a word of at most 32 ASCII letters such as `red`. -/
def isColor : List Char → Bool
  | '#' :: digits => (digits.length == 3 || digits.length == 6) && digits.all isHexDigit
  | cs => 1 ≤ cs.length && cs.length ≤ 32 && cs.all Char.isAlpha

/-- Bind the tag's argument as `color` if it is a colour. -/
def bindColor : Hook := fun tag =>
  match tag.args.arg? with
  | some arg =>
    let color := trim arg.toList
    if isColor color then .bind "color" (.text (String.ofList color)) .done else .done
  | none => .done

def bold : Definition := ⟨"b", .none, none, none, none, by decide, by decide⟩

def italic : Definition := ⟨"i", .none, none, none, none, by decide, by decide⟩

def underline : Definition := ⟨"u", .none, none, none, none, by decide, by decide⟩

def strike : Definition := ⟨"s", .none, none, none, none, by decide, by decide⟩

def code : Definition := ⟨"code", .none, none, none, none, by decide, by decide⟩

/-- Coloured text. -/
def color : Definition :=
  { name := "color"
    contract := .positional
    template? := none
    usage? := some ["[color=red]Example Text[/color]", "[color=#ff0000]Example Text[/color]"]
    hook? := some bindColor
    named := by decide
    folded := by decide }

def library : Library := ⟨"text", [bold, italic, underline, strike, code, color]⟩

end Formatting
end Tag
end BracketMark
