import BracketMark.Template.Operand

/-!
# Words and chunks

The source of a template is text with three kinds of bracketed chunks: `{{ … }}` prints,
`{% … %}` decides, `{# … #}` is a comment.  Inside the first two stand words, separated by
ASCII blanks where needed; quoted texts may hold what would otherwise end the chunk.  A chunk
that does not end makes the whole source malformed.
-/

namespace BracketMark
namespace Template

/-- A word inside a chunk. -/
inductive Word where
  | name (name : String)
  | text (text : String)
  | int (value : Nat)
  | symbol (char : Char)
  deriving DecidableEq, Repr

/-- A stretch of template source. -/
inductive Chunk where
  | text (text : String)
  /-- `{{ … }}` -/
  | print (words : List Word)
  /-- `{% … %}` -/
  | tag (words : List Word)
  deriving DecidableEq, Repr

/-- A character that separates words; only ASCII ones do. -/
def separatesWords (c : Char) : Bool :=
  c == ' ' || c == '\t' || c == '\n' || c == '\x0c' || c == '\r'

/-- A text without the separators it begins with. -/
def skipSeparators (cs : List Char) : List Char :=
  cs.dropWhile separatesWords

theorem length_skipSeparators_le (cs : List Char) : (skipSeparators cs).length ≤ cs.length :=
  (List.dropWhile_suffix separatesWords).length_le

/-- The word at the front of a text, and what follows it. -/
def readWord : List Char → Option (Word × List Char)
  | [] => none
  | c :: cs =>
    if isNameStart c then
      some (.name (String.ofList (c :: cs.takeWhile isNameChar)), cs.dropWhile isNameChar)
    else if c.isDigit then (readNumber (c :: cs)).map fun p => (.int p.1, p.2)
    else if c = '"' || c = '\'' then
      (readQuotedText c cs).map fun p => (.text (String.ofList p.1), p.2)
    else some (.symbol c, cs)

theorem length_readWord_lt {cs rest : List Char} {word : Word}
    (h : readWord cs = some (word, rest)) : rest.length < cs.length := by
  cases cs with
  | nil => simp [readWord] at h
  | cons c cs =>
    simp only [readWord] at h
    split at h
    · have : (cs.dropWhile isNameChar).length ≤ cs.length :=
        (List.dropWhile_suffix isNameChar).length_le
      grind
    · split at h
      · obtain ⟨p, hp, _⟩ := Option.map_eq_some_iff.1 h
        have := length_readNumber_lt hp
        grind
      · split at h
        · obtain ⟨p, hp, _⟩ := Option.map_eq_some_iff.1 h
          have := length_readQuotedText_lt hp
          grind
        · grind

/-- The words up to the end of a chunk, which is `close` and a closing brace, and what
    follows it. -/
def readWords (close : Char) (cs : List Char) : Option (List Word × List Char) :=
  match _skip : skipSeparators cs with
  | [] => none
  | c :: rest =>
    if c = close ∧ rest.head? = some '\x7d' then some ([], rest.tail)
    else
      match _read : readWord (c :: rest) with
      | none => none
      | some (word, rest) =>
        match readWords close rest with
        | some (words, rest) => some (word :: words, rest)
        | none => none
termination_by cs.length
decreasing_by
  have shorter := length_readWord_lt _read
  rw [← _skip] at shorter
  exact Nat.lt_of_lt_of_le shorter (length_skipSeparators_le cs)

theorem length_readWords_le {close : Char} {cs rest : List Char} {words : List Word}
    (h : readWords close cs = some (words, rest)) : rest.length ≤ cs.length := by
  fun_induction readWords close cs generalizing words rest with
  | case1 => simp at h
  | case2 cs c tail skip _ =>
    have := length_skipSeparators_le cs
    have : rest = tail.tail := by grind
    rw [skip] at *
    grind
  | case3 => simp at h
  | case4 cs c tail skip _ word after read words' rest' hw ih =>
    have := length_skipSeparators_le cs
    have := length_readWord_lt read
    have := ih hw
    rw [skip] at *
    grind
  | case5 => simp at h

/-- What follows a comment. -/
def skipComment : List Char → Option (List Char)
  | [] => none
  | '#' :: '\x7d' :: rest => some rest
  | _ :: rest => skipComment rest

theorem length_skipComment_le {cs rest : List Char} (h : skipComment cs = some rest) :
    rest.length ≤ cs.length := by
  fun_induction skipComment cs <;> grind

/-- Whether a text begins a chunk. -/
def beginsChunk : List Char → Bool
  | '\x7b' :: c :: _ => c == '\x7b' || c == '%' || c == '#'
  | _ => false

/-- The text up to the next chunk, and the rest. -/
def splitText : List Char → List Char × List Char
  | [] => ([], [])
  | c :: cs =>
    if beginsChunk (c :: cs) then ([], c :: cs)
    else
      let (text, rest) := splitText cs
      (c :: text, rest)

theorem length_splitText_le (cs : List Char) : (splitText cs).2.length ≤ cs.length := by
  fun_induction splitText cs <;> grind

/-- The chunks of a source, or none if one of them does not end. -/
def chunks : List Char → Option (List Chunk)
  | [] => some []
  | c :: cs =>
    if beginsChunk (c :: cs) then
      match cs with
      | '\x7b' :: body =>
        match _read : readWords '\x7d' body with
        | some (words, rest) => (chunks rest).map (.print words :: ·)
        | none => none
      | '%' :: body =>
        match _read : readWords '%' body with
        | some (words, rest) => (chunks rest).map (.tag words :: ·)
        | none => none
      | _ :: body =>
        match _skip : skipComment body with
        | some rest => chunks rest
        | none => none
      | [] => none
    else
      (chunks (splitText cs).2).map (.text (String.ofList (c :: (splitText cs).1)) :: ·)
termination_by cs => cs.length
decreasing_by
  · have := length_readWords_le _read; simp only [List.length_cons]; omega
  · have := length_readWords_le _read; simp only [List.length_cons]; omega
  · have := length_skipComment_le _skip; simp only [List.length_cons]; omega
  · have := length_splitText_le cs; simp only [List.length_cons]; omega

end Template
end BracketMark
