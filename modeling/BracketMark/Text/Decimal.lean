/-!
# Digits

Decimal and hexadecimal digits of natural numbers, most significant first.
-/

namespace BracketMark
namespace Text

/-- The lower-case hexadecimal digit of a number below sixteen. -/
def hexDigit (n : Nat) : Char :=
  Char.ofNat (if n < 10 then 48 + n else 87 + n)

/-- The digits of a number in base ten. -/
def decimal (n : Nat) : List Char :=
  if n < 10 then [hexDigit n] else decimal (n / 10) ++ [hexDigit (n % 10)]
termination_by n
decreasing_by omega

/-- The digits of a number in base sixteen. -/
def hexadecimal (n : Nat) : List Char :=
  if n < 16 then [hexDigit n] else hexadecimal (n / 16) ++ [hexDigit (n % 16)]
termination_by n
decreasing_by omega

/-- The decimal text of an integer. -/
def decimalText (n : Int) : String :=
  (if n < 0 then "-" else "") ++ String.ofList (decimal n.natAbs)

end Text
end BracketMark
