import BracketMark.Template.Value

/-!
# Data

What the expressions of a template stand for: the values bound to names, and what only
expressions make, which is nothing at all, the functions that every template knows, lists
written in place, and dictionaries.
-/

namespace BracketMark
namespace Template

open Text Html

/-- The functions that every template knows. -/
inductive Function where
  | range
  | dict
  | namespaceOf
  | debug
  deriving DecidableEq

def Function.name : Function → String
  | .range => "range"
  | .dict => "dict"
  | .namespaceOf => "namespace"
  | .debug => "debug"

/-- How a function prints. -/
def Function.text (function : Function) : String :=
  "minijinja::functions::builtins::" ++ function.name

def Function.ofName? (name : String) : Option Function :=
  [Function.range, .dict, .namespaceOf, .debug].find? (·.name == name)

/-- What an expression stands for. -/
inductive Datum where
  /-- What a name that is not bound stands for. -/
  | undefined
  | value (value : Value)
  | function (function : Function)
  | list (items : List Datum)
  /-- A dictionary, in increasing order of key. -/
  | dict (entries : List (String × Datum))

namespace Datum

mutual

/-- A datum as it stands inside a list or a dictionary: texts are quoted. -/
def item : Datum → String
  | .undefined => "undefined"
  | .value v => v.item
  | .function f => f.text
  | .list items => "[" ++ itemsText items ++ "]"
  | .dict entries => "\x7b" ++ entriesText entries ++ "\x7d"

/-- The items of a list, separated by commas. -/
def itemsText : List Datum → String
  | [] => ""
  | [datum] => item datum
  | datum :: data => item datum ++ ", " ++ itemsText data

/-- The entries of a dictionary, separated by commas. -/
def entriesText : List (String × Datum) → String
  | [] => ""
  | [(key, datum)] => quoted key ++ ": " ++ item datum
  | (key, datum) :: entries => quoted key ++ ": " ++ item datum ++ ", " ++ entriesText entries

end

/-- The text of a datum, unescaped. -/
def toText : Datum → String
  | .undefined => ""
  | .value v => v.toText
  | datum => datum.item

/-- A datum as safe text: escaped unless it is safe already. -/
def toSafe : Datum → Safe
  | .value v => v.toSafe
  | datum => Safe.escape datum.toText

/-- A datum as it prints in a template that escapes. -/
def printEscaped : Datum → String
  | .value v => v.printEscaped
  | datum => String.ofList (datum.toText.toList.flatMap escapeListChar)

/-- Whether a condition on the datum holds: not for what is not defined, and not for what is
    empty. -/
def isTrue : Datum → Bool
  | .undefined => false
  | .value v => v.isTrue
  | .function _ => true
  | .list items => !items.isEmpty
  | .dict entries => !entries.isEmpty

/-- The member of a name, of a datum that is defined. -/
def member (key : String) : Datum → Datum
  | .dict entries => (entries.lookup key).getD .undefined
  | _ => .undefined

/-- The item of a number, of a datum that is defined; the items of a text are its
    characters. -/
def index (n : Nat) : Datum → Datum
  | .list items => items[n]?.getD .undefined
  | .value (.list items) => (items[n]?.map Datum.value).getD .undefined
  | .value (.text text) => character text.toList
  | .value (.safe html) => character html.text.toList
  | _ => .undefined
where
  /-- A character by itself is plain text. -/
  character (cs : List Char) : Datum :=
    (cs[n]?.map fun c => Datum.value (.text (String.singleton c))).getD .undefined

end Datum
end Template
end BracketMark
