import BracketMark.Template.Value

/-!
# Templates

A template is text with holes: expressions to print, and conditions that choose between
parts.  Whether what it prints is escaped depends on its name.
-/

namespace BracketMark
namespace Template

inductive Expr where
  /-- What a name stands for. -/
  | name (name : String)
  | literal (value : Value)
  /-- `(item, …)` -/
  | list (items : List Expr)
  /-- `subject.key` -/
  | member (subject : Expr) (key : String)
  /-- `subject.n` -/
  | index (subject : Expr) (n : Nat)
  /-- `subject|name(args)`, the arguments with their names if they are given by name -/
  | filter (subject : Expr) (name : String) (args : List (Option String × Expr))
  /-- `callee(args)` -/
  | call (callee : Expr) (args : List (Option String × Expr))

inductive Part where
  /-- Text that is copied. -/
  | text (text : String)
  /-- An expression whose value is printed. -/
  | print (expr : Expr)
  /-- One of two lists of parts, as a condition holds or not. -/
  | choose (test : Expr) (yes no : List Part)

/-- A template that has been read. -/
structure Compiled where
  /-- Whether plain texts are escaped when they are printed. -/
  escaping : Bool
  parts : List Part

/-- The endings that are dropped from a template's name before its kind is read off. -/
def neutralEndings : List String := [".j2", ".jinja2", ".jinja"]

/-- The kinds of template that escape what they print. -/
def escapingKinds : List String := ["html", "htm", "xml"]

/-- A name without its neutral ending. -/
def stem (name : List Char) : List Char :=
  match neutralEndings.find? (fun ending => ending.toList.isSuffixOf name) with
  | some ending => name.take (name.length - ending.toList.length)
  | none => name

/-- The kind of a template: what stands after the last full stop of its name, or the whole
    name if there is none. -/
def kind (name : String) : String :=
  String.ofList ((stem name.toList).reverse.takeWhile (· != '.')).reverse

/-- Whether the template of this name escapes what it prints. -/
def escapes (name : String) : Bool :=
  escapingKinds.contains (kind name)

end Template
end BracketMark
