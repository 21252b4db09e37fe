import BracketMark.Template.Basic
import BracketMark.Template.Word

/-!
# Reading templates

Both expressions and conditions are read from left to right with a stack: of open brackets
for an expression, of open conditions for a template.  Conditions and brackets together may
nest `maxDepth` levels deep.  A source that is not well formed is no template at all,
whichever part of it would have been used.
-/

namespace BracketMark
namespace Template

/-- The deepest level at which an operand may stand. -/
def maxDepth : Nat := 150

/-! ## Expressions -/

/-- What an open bracket is for. -/
inductive Opener where
  /-- A group, which is a list if it has commas. -/
  | group
  /-- The arguments of a call. -/
  | call (callee : Expr)
  /-- The arguments of a filter. -/
  | filter (subject : Expr) (name : String)

/-- The levels between a bracket and what stands in it: a group counts as an operand and as
    the expression inside it, arguments only as expressions. -/
def Opener.levels : Opener → Nat
  | .group => 2
  | .call _ => 1
  | .filter _ _ => 1

/-- An open bracket. -/
structure Bracket where
  opener : Opener
  /-- The expressions before the last comma, the last one first. -/
  args : List (Option String × Expr)
  /-- The name that the expression after the last comma is given by. -/
  name : Option String

/-- What may come after what has been read. -/
inductive Stage where
  /-- More of a quoted text, or what may come after any operand. -/
  | quoted
  /-- A member, arguments or a filter. -/
  | operand
  /-- More of a filter's name, its arguments or a further filter. -/
  | filterName
  /-- A further filter. -/
  | filtered
  deriving DecidableEq

/-- Whether a member or arguments may come next. -/
def Stage.extends (stage : Stage) : Bool :=
  stage = .quoted || stage = .operand

/-- What may come next in an expression. -/
inductive Expect where
  /-- An operand; or the end of a bracket, where one is possible. -/
  | operand (orClose : Bool)
  /-- What follows an operand. -/
  | operator (left : Expr) (stage : Stage)
  /-- The name or number after a full stop. -/
  | key (subject : Expr)
  /-- The rest of a filter's name, after `front`. -/
  | filterName (subject : Expr) (front : String)

/-- An expression under construction. -/
structure Phrase where
  /-- The level that the expression stands at. -/
  level : Nat
  expect : Expect
  /-- The open brackets, the innermost first. -/
  brackets : List Bracket

/-- The level of an operand at this point. -/
def Phrase.depth (phrase : Phrase) : Nat :=
  phrase.brackets.foldl (fun depth bracket => depth + bracket.opener.levels) (phrase.level + 1)

namespace Bracket

def ofOpener (opener : Opener) : Bracket := ⟨opener, [], none⟩

/-- A bracket after one more expression.  What is given by name comes last. -/
def add (bracket : Bracket) (expr : Expr) : Option Bracket :=
  if bracket.name.isNone && bracket.args.any (·.1.isSome) then none
  else some { bracket with args := (bracket.name, expr) :: bracket.args, name := none }

/-- A bracket whose next expression is given by name. -/
def call (bracket : Bracket) (name : String) : Option Bracket :=
  match bracket.opener, bracket.name with
  | .group, _ => none
  | _, some _ => none
  | _, none => some { bracket with name := some name }

/-- What a bracket stands for that ends after a comma, or at once. -/
def finish (bracket : Bracket) : Expect :=
  match bracket.opener with
  | .group => .operator (.list (bracket.args.reverse.map (·.2))) .operand
  | .call callee => .operator (.call callee bracket.args.reverse) .operand
  | .filter subject name => .operator (.filter subject name bracket.args.reverse) .filtered

/-- What a bracket stands for that ends after an expression. -/
def finishWith (bracket : Bracket) (expr : Expr) : Option Expect :=
  match bracket.opener, bracket.args with
  | .group, [] => some (.operator expr .operand)
  | _, _ => (bracket.add expr).map finish

end Bracket

/-- The value that a name stands for in every template. -/
def constant? : String → Option Value
  | "true" | "True" => some (.bool true)
  | "false" | "False" => some (.bool false)
  | "none" | "None" => some .none
  | _ => none

/-- A word in operand position.  The name `not` is reserved and no operand. -/
def operand? : Word → Option Expect
  | .name "not" => none
  | .name name => match constant? name with
    | some value => some (.operator (.literal value) .operand)
    | none => some (.operator (.name name) .operand)
  | .text text => some (.operator (.literal (.text text)) .quoted)
  | .int n => some (.operator (.literal (.int n)) .operand)
  | .symbol _ => none

/-- An expression with one more open bracket. -/
def Phrase.opened (phrase : Phrase) (opener : Opener) : Phrase :=
  { phrase with expect := .operand true, brackets := .ofOpener opener :: phrase.brackets }

/-- One more word of an expression where an operand is expected. -/
def Phrase.stepOperand (phrase : Phrase) (orClose : Bool) : Word → Option Phrase
  | .symbol '(' => some (phrase.opened .group)
  | .symbol ')' =>
    match orClose, phrase.brackets with
    | true, bracket :: brackets => some { phrase with expect := bracket.finish, brackets }
    | _, _ => none
  | word =>
    if phrase.depth ≤ maxDepth then (operand? word).map ({ phrase with expect := · }) else none

/-- One more word of an expression after the operand `left`. -/
def Phrase.stepOperator (phrase : Phrase) (left : Expr) (stage : Stage) : Word → Option Phrase
  | .text more =>
    match left, stage with
    | .literal (.text front), .quoted =>
      some { phrase with expect := .operator (.literal (.text (front ++ more))) .quoted }
    | _, _ => none
  | .symbol '.' =>
    match left, stage with
    | .filter subject name _, .filterName =>
      some { phrase with expect := .filterName subject (name ++ ".") }
    | _, _ => if stage.extends then some { phrase with expect := .key left } else none
  | .symbol '(' =>
    match left, stage with
    | .filter subject name _, .filterName => some (phrase.opened (.filter subject name))
    | _, _ => if stage.extends then some (phrase.opened (.call left)) else none
  | .symbol '|' => some { phrase with expect := .filterName left "" }
  | .symbol ')' =>
    match phrase.brackets with
    | bracket :: brackets => (bracket.finishWith left).map ({ phrase with expect := ·, brackets })
    | [] => none
  | .symbol ',' =>
    match phrase.brackets with
    | bracket :: brackets =>
      (bracket.add left).map fun bracket =>
        { phrase with expect := .operand true, brackets := bracket :: brackets }
    | [] => none
  | .symbol '=' =>
    match left, stage, phrase.brackets with
    | .name name, .operand, bracket :: brackets =>
      (bracket.call name).map fun bracket =>
        { phrase with expect := .operand false, brackets := bracket :: brackets }
    | _, _, _ => none
  | _ => none

def Phrase.step (phrase : Phrase) (word : Word) : Option Phrase :=
  match phrase.expect, word with
  | .operand orClose, word => phrase.stepOperand orClose word
  | .operator left stage, word => phrase.stepOperator left stage word
  | .key subject, .name key =>
    some { phrase with expect := .operator (.member subject key) .operand }
  | .key subject, .int n => some { phrase with expect := .operator (.index subject n) .operand }
  | .filterName subject front, .name name =>
    some { phrase with expect := .operator (.filter subject (front ++ name) []) .filterName }
  | _, _ => none

/-- The expression that words spell at a level. -/
def readExpr (level : Nat) (words : List Word) : Option Expr :=
  match words.foldlM Phrase.step ⟨level, .operand false, []⟩ with
  | some ⟨_, .operator expr _, []⟩ => some expr
  | _ => none

/-! ## Parts -/

/-- An open condition. -/
structure OpenChoice where
  test : Expr
  /-- The parts before the condition, the last one first. -/
  before : List Part
  /-- The parts for when it holds, once those for when it does not have begun. -/
  yes : Option (List Part)
  /-- Whether it ends where the condition around it ends. -/
  chained : Bool

/-- A template under construction. -/
structure Draft where
  /-- The parts in the innermost open condition, the last one first. -/
  current : List Part
  /-- The open conditions, the innermost first. -/
  choices : List OpenChoice

namespace Draft

/-- The innermost condition ends, and with it those it is chained to. -/
def close : List Part → List OpenChoice → Option Draft
  | _, [] => none
  | current, choice :: choices =>
    let part := match choice.yes with
      | none => Part.choose choice.test current.reverse []
      | some yes => Part.choose choice.test yes current.reverse
    if choice.chained then close (part :: choice.before) choices
    else some ⟨part :: choice.before, choices⟩

/-- The parts for when the innermost condition does not hold begin. -/
def otherwise (draft : Draft) : Option Draft :=
  match draft.choices with
  | choice :: choices =>
    match choice.yes with
    | none => some ⟨[], { choice with yes := some draft.current.reverse } :: choices⟩
    | some _ => none
  | [] => none

/-- A condition begins. -/
def begin (draft : Draft) (test : Expr) (chained : Bool) : Draft :=
  ⟨[], ⟨test, draft.current, none, chained⟩ :: draft.choices⟩

/-- The level at this point: one for each condition that has an end of its own. -/
def level (draft : Draft) : Nat := draft.choices.countP (!·.chained)

/-- A `{% … %}` chunk. -/
def tag (draft : Draft) : List Word → Option Draft
  | .name "if" :: words => (readExpr (draft.level + 1) words).map (draft.begin · false)
  | .name "elif" :: words =>
    (readExpr draft.level words).bind fun test => draft.otherwise.map (·.begin test true)
  | [.name "else"] => draft.otherwise
  | [.name "endif"] => close draft.current draft.choices
  | _ => none

def step (draft : Draft) : Chunk → Option Draft
  | .text text => some { draft with current := .text text :: draft.current }
  | .print words => (readExpr (draft.level + 1) words).map fun expr =>
    { draft with current := .print expr :: draft.current }
  | .tag words => draft.tag words

end Draft

/-- The parts that chunks spell. -/
def readParts (chunks : List Chunk) : Option (List Part) :=
  match chunks.foldlM Draft.step ⟨[], []⟩ with
  | some ⟨current, []⟩ => some current.reverse
  | _ => none

/-- A text without the character `c` it ends with, if it does. -/
def dropLast (c : Char) (cs : List Char) : List Char :=
  if cs.getLast? = some c then cs.dropLast else cs

/-- A source without the line break it ends with: a line feed, a carriage return or the two
    together. -/
def dropFinalBreak (source : List Char) : List Char :=
  dropLast '\r' (dropLast '\n' source)

/-- The template of a name with a source, if the source is well formed. -/
def read (name source : String) : Option Compiled :=
  ((chunks (dropFinalBreak source.toList)).bind readParts).map (⟨escapes name, ·⟩)

end Template
end BracketMark
