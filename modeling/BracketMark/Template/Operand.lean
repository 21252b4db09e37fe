import BracketMark.Text.Numeral

/-!
# Operands

What the expressions of a template are made of: names, texts in quotes and natural numbers.

A name is of ASCII letters, digits and underscores.  In a quoted text a backslash begins an
escape: a letter for a control character, or a character by its code, in two hexadecimal
digits after `x`, in four after `u`, or in up to three octal digits.  Four digits spell a
UTF-16 unit, so a character may take two escapes.  Before any other character a backslash is
a backslash.  A number is in base ten, or in the base that `0b`, `0o` or `0x` before it says,
and has to fit in 128 bits.
-/

namespace BracketMark
namespace Template

open Text

/-! ## Names -/

/-- A character that may begin a name. -/
def isNameStart (c : Char) : Bool := c.isAlpha || c == '_'

/-- A character that may stand in a name. -/
def isNameChar (c : Char) : Bool := c.isAlphanum || c == '_'

/-! ## Texts -/

/-- A code in `width` hexadecimal digits, the first of which may be a plus sign instead, and
    what follows it. -/
def readCode (width : Nat) (cs : List Char) : Option (Nat × List Char) :=
  if (cs.take width).length < width then none
  else
    let digits := match cs.take width with
      | '+' :: digits => digits
      | digits => digits
    (numeral? 16 digits).map (·, cs.drop width)

/-- The code point of a surrogate pair of UTF-16 units. -/
def pairCode? (high low : Nat) : Option Nat :=
  if 0xD800 ≤ high && high ≤ 0xDBFF && 0xDC00 ≤ low && low ≤ 0xDFFF then
    some (0x10000 + (high - 0xD800) * 0x400 + (low - 0xDC00))
  else none

/-- The character whose UTF-16 units are spelled in one or two escapes, the first after its
    `u`, and what follows it. -/
def readUnits (cs : List Char) : Option (Char × List Char) :=
  match readCode 4 cs with
  | none => none
  | some (unit, rest) =>
    if unit.isValidChar then some (Char.ofNat unit, rest)
    else match rest with
      | '\\' :: 'u' :: rest =>
        match readCode 4 rest with
        | none => none
        | some (low, rest) => (pairCode? unit low).map (Char.ofNat ·, rest)
      | _ => none

/-- A digit below eight. -/
def isOctalDigit (c : Char) : Bool := '0' ≤ c && c ≤ '7'

/-- The octal digits at the front of a text, but three at most. -/
def octalDigits (cs : List Char) : List Char :=
  (cs.take 3).takeWhile isOctalDigit

/-- What an escape stands for, after its backslash, and what follows it. -/
def readEscape : List Char → Option (List Char × List Char)
  | [] => none
  | 'b' :: cs => some (['\x08'], cs)
  | 'f' :: cs => some (['\x0c'], cs)
  | 'n' :: cs => some (['\n'], cs)
  | 'r' :: cs => some (['\r'], cs)
  | 't' :: cs => some (['\t'], cs)
  | 'x' :: cs => (readCode 2 cs).map fun p => ([Char.ofNat p.1], p.2)
  | 'u' :: cs => (readUnits cs).map fun p => ([p.1], p.2)
  | c :: cs =>
    if isOctalDigit c then
      match numeral? 8 (octalDigits (c :: cs)) with
      | none => none
      | some code =>
        if code < 0x100 then some ([Char.ofNat code], (c :: cs).drop (octalDigits (c :: cs)).length)
        else none
    else if c = '\\' || c = '/' || c = '"' || c = '\'' then some ([c], cs)
    else some (['\\', c], cs)

theorem length_readCode_le {width code : Nat} {cs rest : List Char}
    (h : readCode width cs = some (code, rest)) : rest.length ≤ cs.length := by
  simp only [readCode] at h
  split at h
  · simp at h
  · obtain ⟨_, _, hp⟩ := Option.map_eq_some_iff.1 h
    have : rest = cs.drop width := (Prod.mk.inj hp).2.symm
    grind

theorem length_readUnits_le {c : Char} {cs rest : List Char}
    (h : readUnits cs = some (c, rest)) : rest.length ≤ cs.length := by
  simp only [readUnits] at h
  split at h
  · simp at h
  case h_2 unit after hunit =>
    have := length_readCode_le hunit
    split at h
    · grind
    · split at h
      case h_1 second _ =>
        split at h
        · simp at h
        case h_2 low tail hlow =>
          have := length_readCode_le hlow
          obtain ⟨_, _, hp⟩ := Option.map_eq_some_iff.1 h
          have : rest = tail := (Prod.mk.inj hp).2.symm
          grind
      case h_2 => simp at h

theorem length_readEscape_lt {cs text rest : List Char}
    (h : readEscape cs = some (text, rest)) : rest.length < cs.length := by
  unfold readEscape at h
  split at h
  case h_7 =>
    obtain ⟨p, hcode, hp⟩ := Option.map_eq_some_iff.1 h
    have := length_readCode_le hcode
    grind
  case h_8 =>
    obtain ⟨p, hunits, hp⟩ := Option.map_eq_some_iff.1 h
    have := length_readUnits_le hunits
    grind
  case h_9 c cs _ _ _ _ _ _ _ =>
    split at h
    case isTrue digit =>
      split at h
      · simp at h
      · split at h
        · have : rest = (c :: cs).drop (octalDigits (c :: cs)).length := by grind
          have : octalDigits (c :: cs) = c :: (cs.take 2).takeWhile isOctalDigit := by
            simp [octalDigits, digit]
          grind
        · simp at h
    case isFalse => grind
  all_goals grind

/-- The rest of a text in quotes, and what follows it. -/
def readQuotedText (quote : Char) : List Char → Option (List Char × List Char)
  | [] => none
  | c :: cs =>
    if c = quote then some ([], cs)
    else if c = '\\' then
      match _escape : readEscape cs with
      | none => none
      | some (text, rest) => (readQuotedText quote rest).map fun p => (text ++ p.1, p.2)
    else (readQuotedText quote cs).map fun p => (c :: p.1, p.2)
termination_by cs => cs.length
decreasing_by
  · have := length_readEscape_lt _escape
    simp only [List.length_cons]
    omega
  · simp

theorem length_readQuotedText_lt {quote : Char} {cs text rest : List Char}
    (h : readQuotedText quote cs = some (text, rest)) : rest.length < cs.length := by
  fun_induction readQuotedText quote cs generalizing text rest with
  | case1 => simp at h
  | case2 => grind
  | case3 => simp at h
  | case4 cs escaped after escape _ ih =>
    obtain ⟨p, hp, heq⟩ := Option.map_eq_some_iff.1 h
    have := length_readEscape_lt escape
    have := ih hp
    grind
  | case5 c cs _ _ ih =>
    obtain ⟨p, hp, heq⟩ := Option.map_eq_some_iff.1 h
    have := ih hp
    grind

/-! ## Numbers -/

/-- The first number that is too large to be written. -/
def numberLimit : Nat := 0x100000000000000000000000000000000

/-- The base that a number is written in, and what follows the mark of the base. -/
def readBase : List Char → Nat × List Char
  | '0' :: 'b' :: cs => (2, cs)
  | '0' :: 'B' :: cs => (2, cs)
  | '0' :: 'o' :: cs => (8, cs)
  | '0' :: 'O' :: cs => (8, cs)
  | '0' :: 'x' :: cs => (16, cs)
  | '0' :: 'X' :: cs => (16, cs)
  | cs => (10, cs)

/-- A character that may stand in a number. -/
def isNumberChar (base : Nat) (c : Char) : Bool :=
  c.isDigit || c == '_' || (base == 16 && (digitValue? c).isSome)

/-- Whether a number in base ten goes on with a fraction: after a full stop that begins no
    name. -/
def beginsFraction (base : Nat) : List Char → Bool
  | '.' :: cs => base == 10 && !cs.head?.any isNameStart
  | _ => false

/-- A natural number, and what follows it.  Underscores may stand among its digits, but not
    after the last. -/
def readNumber (cs : List Char) : Option (Nat × List Char) :=
  let (base, body) := readBase cs
  let spelling := body.takeWhile (isNumberChar base)
  let rest := body.dropWhile (isNumberChar base)
  if spelling.getLast? == some '_' || beginsFraction base rest then none
  else match numeral? base (spelling.filter (· != '_')) with
    | none => none
    | some n => if n < numberLimit then some (n, rest) else none

theorem length_readBase_le (cs : List Char) : (readBase cs).2.length ≤ cs.length := by
  unfold readBase
  split <;> grind

theorem length_readNumber_lt {n : Nat} {cs rest : List Char}
    (h : readNumber cs = some (n, rest)) : rest.length < cs.length := by
  have base := length_readBase_le cs
  simp only [readNumber] at h
  split at h
  · simp at h
  · split at h
    · simp at h
    case h_2 value digits =>
      split at h
      · have hrest : rest = (readBase cs).2.dropWhile (isNumberChar (readBase cs).1) := by grind
        have split : (readBase cs).2.takeWhile (isNumberChar (readBase cs).1) ++ rest =
            (readBase cs).2 := by rw [hrest]; exact List.takeWhile_append_dropWhile
        have some_digit : (readBase cs).2.takeWhile (isNumberChar (readBase cs).1) ≠ [] := by
          intro none
          rw [none] at digits
          simp [numeral?] at digits
        have := congrArg List.length split
        have := List.length_pos_iff.2 some_digit
        grind
      · simp at h

end Template
end BracketMark
