import BracketMark.Dict
import BracketMark.Template.Datum

/-!
# Functions

What the functions of templates make of their arguments.  `range` counts: from zero, or from
its first of two arguments, to the last but not including it, in steps of one or of its third
argument, which may be negative.  `dict` and `namespace` make dictionaries out of named
arguments, and `dict` also adds them to a dictionary that it is given.
-/

namespace BracketMark
namespace Template

/-- An argument of a call, with its name if it is given by name. -/
abbrev Argument := Option String × Datum

namespace Datum

/-- The number that a datum stands for as an argument, if it fits in 64 bits.  Truth values
    count as zero and one. -/
def number? : Datum → Option Int
  | .value (.bool b) => some b.toInt
  | .value (.int n) =>
    if -0x8000000000000000 ≤ n && n < 0x8000000000000000 then some n else none
  | _ => none

/-- Whether a datum given as an argument counts as left out. -/
def isLeftOut : Datum → Bool
  | .undefined => true
  | .value .none => true
  | _ => false

end Datum

/-- The length of the longest range. -/
def rangeLimit : Nat := 100000

/-- How many numbers there are from `first` to before `last` in steps of `step`. -/
def rangeSize (first last step : Int) : Nat :=
  if 0 < step then ((last - first + step - 1) / step).toNat
  else ((first - last - step - 1) / -step).toNat

/-- The numbers from `first` to `last`, which is not one of them, in steps of `step`. -/
def rangeOf? (first last step : Int) : Option Datum :=
  let size := rangeSize first last step
  if step = 0 || rangeLimit < size then none
  else some (.value (.list ((List.range size).map fun (i : Nat) => .int (first + step * i))))

/-- What `range` makes of its arguments, where the later two may be left out. -/
def count? (first last step : Datum) : Option Datum := do
  let step ← if step.isLeftOut then some 1 else step.number?
  let first ← first.number?
  if last.isLeftOut then rangeOf? 0 first step else rangeOf? first (← last.number?) step

/-- What `range` makes of a list of arguments. -/
def range? : List Datum → Option Datum
  | [last] => count? last .undefined .undefined
  | [first, last] => count? first last .undefined
  | [first, last, step] => count? first last step
  | _ => none

/-- The entries of the dictionary that `dict` and `namespace` are given to begin with. -/
def entries? : List Datum → Option (List (String × Datum))
  | [] => some []
  | [.dict entries] => some entries
  | [datum] => if datum.isLeftOut then some [] else none
  | _ => none

def positional (args : List Argument) : List Datum :=
  (args.filter (·.1.isNone)).map (·.2)

def named (args : List Argument) : List (String × Datum) :=
  args.filterMap fun arg => arg.1.map (·, arg.2)

/-- What a function makes of its arguments, unless it refuses them. -/
def Function.apply? (function : Function) (args : List Argument) : Option Datum :=
  match function with
  | .range => if (named args).isEmpty then range? (positional args) else none
  | .dict => (entries? (positional args)).map fun entries =>
    .dict (Dict.ofList (entries ++ named args)).toList
  | .namespaceOf =>
    if (named args).isEmpty then (entries? (positional args)).map .dict
    else if (positional args).isEmpty then some (.dict (Dict.ofList (named args)).toList)
    else none
  -- what it shows of an evaluation is not for documents
  | .debug => none

end Template
end BracketMark
