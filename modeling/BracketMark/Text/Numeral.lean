/-!
# Numerals

Numbers read from their digits, most significant first, in any base up to sixteen.
-/

namespace BracketMark
namespace Text

/-- The value of a digit below sixteen; letters may be in either case. -/
def digitValue? (c : Char) : Option Nat :=
  if c.isDigit then some (c.toNat - 48)
  else if 'a' ≤ c && c ≤ 'f' then some (c.toNat - 87)
  else if 'A' ≤ c && c ≤ 'F' then some (c.toNat - 55)
  else none

/-- The value of a digit in a base, if it is one there. -/
def digitIn? (base : Nat) (c : Char) : Option Nat :=
  (digitValue? c).filter (· < base)

/-- The number that digits spell in a base.  There has to be a digit, and nothing else. -/
def numeral? (base : Nat) : List Char → Option Nat
  | [] => none
  | cs => cs.foldlM (fun n c => (digitIn? base c).map (base * n + ·)) 0

end Text
end BracketMark
