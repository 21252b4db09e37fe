import BracketMark.Dict
import BracketMark.Markup.Token

/-!
# Closable openings

An opening tag can be closed when, further on, the closings of its name outnumber the
further openings of that name at some point.  Reading the tokens from the right and
keeping, for each name, how many closings are still free answers this for every opening at
once: an opening is closable when one is free, and takes it.
-/

namespace BracketMark
namespace Markup

/-- For each name, the closings to the right that no opening has taken. -/
abbrev Free := Dict Nat

/-- How many closings of a name are free. -/
def Free.count (free : Free) (name : String) : Nat :=
  (free.get? name).getD 0

/-- One token further to the left: whether it is a closable opening, and what is free
    then. -/
def Free.step (free : Free) : Token → Bool × Free
  | .opening _ tag => (free.count tag.name > 0, free.insert tag.name (free.count tag.name - 1))
  | .closing _ name => (false, free.insert name (free.count name + 1))
  | _ => (false, free)

/-- The closable openings of a token list, and what is free to the left of it. -/
def closableFrom (tokens : List Token) : List Bool × Free :=
  tokens.foldr
    (fun token acc => let (mark, free) := acc.2.step token; (mark :: acc.1, free))
    ([], .empty)

/-- For each token, whether it is a closable opening. -/
def closable (tokens : List Token) : List Bool :=
  (closableFrom tokens).1

end Markup
end BracketMark
