import BracketMark.Text.Numeral

/-!
# YAML scalars

The single values of a YAML text: plain ones, which stand without quotes, and quoted ones.
Inside a scalar a line break is folded to a space, and further line breaks after it are
kept; the line and paragraph separators of Unicode break lines too, but are always kept.
What may end a plain scalar depends on whether it stands inside brackets, and how far its
further lines have to be indented on what it stands in.

A text is read with a cursor that knows the column it is at, after `normalize` has brought
the other styles of line break to line feeds.
-/

namespace BracketMark
namespace Yaml

open Text

/-- A place in a text. -/
structure Cursor where
  rest : List Char
  column : Nat

/-- A character that a YAML text may hold. -/
def isAllowed (c : Char) : Bool :=
  let n := c.toNat
  n == 0x09 || n == 0x0A || n == 0x0D || (0x20 ≤ n && n ≤ 0x7E) || n == 0x85 ||
    (0xA0 ≤ n && n ≤ 0xD7FF) || (0xE000 ≤ n && n ≤ 0xFFFD) || 0x10000 ≤ n

/-- The text with a line feed for every carriage return, for the two together, and for every
    next-line character. -/
def normalize : List Char → List Char
  | [] => []
  | '\r' :: '\n' :: cs => '\n' :: normalize cs
  | c :: cs => (if c = '\r' || c = '\u0085' then '\n' else c) :: normalize cs

/-- A blank inside a line. -/
def isSpace (c : Char) : Bool := c == ' ' || c == '\t'

/-- A line break, in a normalized text. -/
def isBreak (c : Char) : Bool := c == '\n' || c == '\u2028' || c == '\u2029'

/-- A blank or a line break. -/
def isGap (c : Char) : Bool := isSpace c || isBreak c

/-- Whether a text is at its end, at a blank or at a line break. -/
def atGap : List Char → Bool
  | [] => true
  | c :: _ => isGap c

/-- The characters that mean something inside brackets. -/
def isFlowIndicator (c : Char) : Bool :=
  c == ',' || c == '[' || c == ']' || c == '\x7b' || c == '\x7d'

/-- Whether a line begins with one of the marks between documents. -/
def atMark (mark : Char) (cursor : Cursor) : Bool :=
  match cursor.column, cursor.rest with
  | 0, a :: b :: c :: rest => a == mark && b == mark && c == mark && atGap rest
  | _, _ => false

/-- Whether a document begins or ends here. -/
def atMarker (cursor : Cursor) : Bool :=
  atMark '-' cursor || atMark '.' cursor

/-- Blanks and line breaks between the words of a scalar. -/
structure Gap where
  /-- The blanks before the first line break. -/
  blanks : List Char
  breaks : List Char
  next : Cursor

/-- Whether a gap reaches a new line. -/
def Gap.crosses (gap : Gap) : Bool := !gap.breaks.isEmpty

/-- Read a gap, with the blanks and breaks of it that have been read, the last one first.  A
    tab that indents a line less than `indent` is no blank and makes the text malformed. -/
def readGap (indent : Nat) : List Char → List Char → Nat → List Char → Option Gap
  | blanks, breaks, column, c :: cs =>
    if isBreak c then readGap indent blanks (c :: breaks) 0 cs
    else if isSpace c then
      if breaks.isEmpty then readGap indent (c :: blanks) [] (column + 1) cs
      else if c = '\t' && column < indent then none
      else readGap indent blanks breaks (column + 1) cs
    else some ⟨blanks.reverse, breaks.reverse, ⟨c :: cs, column⟩⟩
  | blanks, breaks, column, [] => some ⟨blanks.reverse, breaks.reverse, ⟨[], column⟩⟩

/-- What a gap between two words stands for. -/
def Gap.fold (gap : Gap) : List Char :=
  match gap.breaks with
  | [] => gap.blanks
  | ['\n'] => [' ']
  | '\n' :: more => more
  | breaks => breaks

/-- A scalar that has been read. -/
structure Scalar where
  text : List Char
  next : Cursor
  /-- Whether a line break was passed. -/
  crossed : Bool
  /-- Whether nothing but blanks stands before its end on the line where it ends. -/
  fresh : Bool

/-! ## Plain scalars -/

/-- Whether a plain scalar may begin here. -/
def startsPlain (flow : Bool) : List Char → Bool
  | [] => false
  | c :: cs =>
    if c = '-' then !atGap cs
    else if c = '?' || c = ':' then !flow && !atGap cs
    else !isGap c && !isFlowIndicator c &&
      !(['#', '&', '*', '!', '|', '>', '\'', '"', '%', '@', '`'].contains c)

/-- The word at the front of a text.  Inside brackets a colon must not touch a bracket or a
    comma. -/
def readPlainWord (flow : Bool) : List Char → Option (List Char × List Char)
  | [] => some ([], [])
  | c :: cs =>
    if isGap c then some ([], c :: cs)
    else if flow && c == ':' && cs.head?.any isFlowIndicator then none
    else if c == ':' && atGap cs then some ([], c :: cs)
    else if flow && isFlowIndicator c then some ([], c :: cs)
    else (readPlainWord flow cs).map fun p => (c :: p.1, p.2)

/-- The words of a plain scalar.  Outside brackets a line indented less than `indent` does
    not belong to it. -/
def readPlain (flow : Bool) (indent : Nat) : Nat → Cursor → Option Scalar
  | 0, _ => none
  | fuel + 1, cursor =>
    if atMarker cursor || cursor.rest.head? == some '#' then some ⟨[], cursor, false, false⟩
    else match readPlainWord flow cursor.rest with
      | none => none
      | some (word, rest) =>
        let column := cursor.column + word.length
        if rest.head?.any isGap then
          match readGap indent [] [] column rest with
          | none => none
          | some gap =>
            let last : Scalar := ⟨word, gap.next, gap.crosses, gap.crosses⟩
            if !flow && gap.next.column < indent then some last
            else match readPlain flow indent fuel gap.next with
              | none => none
              | some more =>
                if more.text.isEmpty then some { last with next := more.next }
                else some { more with
                  text := word ++ gap.fold ++ more.text, crossed := more.crossed || gap.crosses }
        else some ⟨word, ⟨rest, column⟩, false, false⟩

/-! ## Quoted scalars -/

/-- The character whose code point the first `width` characters of a text spell as
    hexadecimal digits. -/
def readCode (width : Nat) (cs : List Char) : Option Char :=
  let digits := cs.take width
  if digits.length < width then none
  else match numeral? 16 digits with
    | none => none
    | some n => if n.isValidChar then some (Char.ofNat n) else none

/-- The character that an escape stands for, and how many characters after its backslash
    spell it. -/
def readEscape : List Char → Option (Char × Nat)
  | '0' :: _ => some ('\x00', 1)
  | 'a' :: _ => some ('\x07', 1)
  | 'b' :: _ => some ('\x08', 1)
  | 't' :: _ => some ('\t', 1)
  | '\t' :: _ => some ('\t', 1)
  | 'n' :: _ => some ('\n', 1)
  | 'v' :: _ => some ('\x0b', 1)
  | 'f' :: _ => some ('\x0c', 1)
  | 'r' :: _ => some ('\r', 1)
  | 'e' :: _ => some ('\x1b', 1)
  | ' ' :: _ => some (' ', 1)
  | '"' :: _ => some ('"', 1)
  | '/' :: _ => some ('/', 1)
  | '\\' :: _ => some ('\\', 1)
  | 'N' :: _ => some ('\u0085', 1)
  | '_' :: _ => some ('\u00a0', 1)
  | 'L' :: _ => some ('\u2028', 1)
  | 'P' :: _ => some ('\u2029', 1)
  | 'x' :: cs => (readCode 2 cs).map (·, 3)
  | 'u' :: cs => (readCode 4 cs).map (·, 5)
  | 'U' :: cs => (readCode 8 cs).map (·, 9)
  | _ => none

/-- The rest of a quoted scalar, after its opening quote. -/
def readQuoted (quote : Char) : Nat → Cursor → Option Scalar
  | 0, _ => none
  | fuel + 1, ⟨rest, column⟩ =>
    let go (cursor : Cursor) (text : List Char) (crossed : Bool) : Option Scalar :=
      (readQuoted quote fuel cursor).map fun more =>
        { more with text := text ++ more.text, crossed := more.crossed || crossed }
    match rest with
    | [] => none
    | c :: cs =>
      if c = quote then
        if quote = '\'' && cs.head? == some '\'' then go ⟨cs.tail, column + 2⟩ ['\''] false
        else some ⟨[], ⟨cs, column + 1⟩, false, false⟩
      else if c = '\\' && quote = '"' then
        if cs.head?.any isBreak then
          -- a line break after a backslash stands for nothing
          match readGap 0 [] [] 0 cs with
          | none => none
          | some gap => if atMarker gap.next then none else go gap.next gap.breaks.tail true
        else
          match readEscape cs with
          | none => none
          | some (d, width) => go ⟨cs.drop width, column + 1 + width⟩ [d] false
      else if isGap c then
        match readGap 0 [] [] column (c :: cs) with
        | none => none
        | some gap => if atMarker gap.next then none else go gap.next gap.fold gap.crosses
      else go ⟨cs, column + 1⟩ [c] false

/-- The scalar at a place, quoted or plain. -/
def readScalar (flow : Bool) (indent : Nat) (fuel : Nat) (cursor : Cursor) : Option Scalar :=
  match cursor.rest with
  | '"' :: cs => readQuoted '"' fuel ⟨cs, cursor.column + 1⟩
  | '\'' :: cs => readQuoted '\'' fuel ⟨cs, cursor.column + 1⟩
  | cs => if startsPlain flow cs then readPlain flow indent fuel cursor else none

end Yaml
end BracketMark
