import BracketMark.Dict

/-!
# Arguments

Markup may give a tag a positional argument, keyword arguments, or neither.  A tag accepts
at most one kind, which is its contract; what it does not accept is dropped.
-/

namespace BracketMark
namespace Tag

/-- The kind of argument a tag accepts. -/
inductive Contract where
  /-- `[name]…[/name]` -/
  | none
  /-- `[name=value]…[/name]` -/
  | positional
  /-- `[name key=value …]…[/name]` -/
  | keywords
  deriving DecidableEq, Repr

/-- The contract in words. -/
def Contract.label : Contract → String
  | .none => "no arguments"
  | .positional => "positional argument"
  | .keywords => "keyword arguments"

/-- The arguments a tag was given and has accepted. -/
inductive Arguments where
  | none
  | positional (arg : String)
  | keywords (kwargs : Dict String)
  deriving DecidableEq

namespace Arguments

/-- What a tag keeps of the arguments in the markup: an empty argument and an empty set of
    keyword arguments count as none. -/
def select (contract : Contract) (arg : Option String) (kwargs : Dict String) : Arguments :=
  match contract, arg with
  | .positional, some arg => if arg = "" then .none else .positional arg
  | .keywords, _ => if kwargs.isEmpty then .none else .keywords kwargs
  | _, _ => .none

def arg? : Arguments → Option String
  | .positional arg => some arg
  | _ => Option.none

def kwargs? : Arguments → Option (Dict String)
  | .keywords kwargs => some kwargs
  | _ => Option.none

end Arguments
end Tag
end BracketMark
