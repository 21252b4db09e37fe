import BracketMark.Html.Safe
import BracketMark.Text.Decimal
import BracketMark.Text.Quoted

/-!
# Template values

What a name in a template stands for.  Texts are plain or safe: only plain ones are escaped
when they are printed.
-/

namespace BracketMark
namespace Template

open Text Html

/-- A value that can be bound to a name. -/
inductive Value where
  | none
  | bool (value : Bool)
  | int (value : Int)
  /-- Plain text. -/
  | text (text : String)
  /-- Text that is already escaped. -/
  | safe (html : Safe)
  | list (items : List Value)

namespace Value

instance : Inhabited Value := ⟨.none⟩

mutual

/-- A value as it stands inside a list: texts are quoted. -/
def item : Value → String
  | .none => "None"
  | .bool true => "True"
  | .bool false => "False"
  | .int n => decimalText n
  | .text s => quoted s
  | .safe html => quoted html.text
  | .list items => "[" ++ itemsText items ++ "]"

def itemsText : List Value → String
  | [] => ""
  | [value] => item value
  | value :: values => item value ++ ", " ++ itemsText values

end

/-- The text of a value, unescaped. -/
def toText : Value → String
  | .text s => s
  | .safe html => html.text
  | value => item value

/-- Whether a condition on the value holds: not for none, false, zero, empty text and the
    empty list. -/
def isTrue : Value → Bool
  | .none => false
  | .bool b => b
  | .int n => n != 0
  | .text s => s != ""
  | .safe html => html.text != ""
  | .list items => !items.isEmpty

/-- The value as safe text: escaped unless it is safe already. -/
def toSafe : Value → Safe
  | .safe html => html
  | value => Safe.escape value.toText

/-- The value as it prints in a template that escapes.  Lists go through an escape of their
    own, which also writes the slash as an entity. -/
def printEscaped : Value → String
  | .safe html => html.text
  | .text s => (Safe.escape s).text
  | .list items => String.ofList ((Value.list items).toText.toList.flatMap escapeListChar)
  | value => value.toText

end Value
end Template
end BracketMark
