import BracketMark.Dict
import BracketMark.Text.Blank
import BracketMark.Markup.Name

/-!
# Keyword arguments

The text after a tag's name in `[name key=value other="two words"]`.  Pairs are separated
by blanks.  A value that begins with a quote runs to the next quote of the same kind and
must end there; any other value runs to the next blank and may be empty.  One malformed
pair makes the whole text malformed: there is no partial reading.
-/

namespace BracketMark
namespace Markup

open Text

/-- The two characters that may enclose a value. -/
def isQuote (c : Char) : Bool :=
  c == '"' || c == '\''

/-- A text that is at its end or goes on with a blank. -/
def atBreak : List Char → Bool
  | [] => true
  | c :: _ => isBlank c

/-- The value at the front of a text, and what follows it. -/
def readValue : List Char → Option (List Char × List Char)
  | [] => some ([], [])
  | c :: cs =>
    if isQuote c then
      match cs.dropWhile (· != c) with
      | [] => none
      | _ :: rest => if atBreak rest then some (cs.takeWhile (· != c), rest) else none
    else
      some ((c :: cs).takeWhile (fun d => !isBlank d), (c :: cs).dropWhile (fun d => !isBlank d))

/-- The pair at the front of a text, its key in lower case, and what follows it. -/
def readPair (cs : List Char) : Option ((String × String) × List Char) :=
  match cs.takeWhile isNameChar, cs.dropWhile isNameChar with
  | [], _ => none
  | k :: ks, '=' :: rest =>
    (readValue rest).map fun p => ((String.ofList (fold (k :: ks)), String.ofList p.1), p.2)
  | _, _ => none

theorem length_readValue_le {cs v rest : List Char} (h : readValue cs = some (v, rest)) :
    rest.length ≤ cs.length := by
  have drop (p : Char → Bool) (l : List Char) : (l.dropWhile p).length ≤ l.length :=
    (List.dropWhile_suffix p).length_le
  cases cs with
  | nil => simp_all [readValue]
  | cons c cs =>
    simp only [readValue] at h
    split at h
    · split at h
      · simp at h
      case h_2 heq =>
        have := drop (· != c) cs
        split at h <;> grind
    · have := drop (fun d => !isBlank d) (c :: cs)
      grind

theorem length_readPair_lt {cs rest : List Char} {p : String × String}
    (h : readPair cs = some (p, rest)) : rest.length < cs.length := by
  have drop : (cs.dropWhile isNameChar).length ≤ cs.length :=
    (List.dropWhile_suffix isNameChar).length_le
  simp only [readPair] at h
  split at h
  · simp at h
  case h_2 k ks after _ heq =>
    obtain ⟨q, hq, hp⟩ := Option.map_eq_some_iff.1 h
    have := @length_readValue_le _ q.1 q.2 hq
    rw [heq] at drop
    grind
  · simp at h

/-- All pairs of a text, in the order written. -/
def readPairs (cs : List Char) : Option (List (String × String)) :=
  match _skip : trimStart cs with
  | [] => some []
  | d :: ds =>
    match _read : readPair (d :: ds) with
    | none => none
    | some (p, rest) => (readPairs rest).map (p :: ·)
termination_by cs.length
decreasing_by
  have shorter := length_readPair_lt _read
  rw [← _skip] at shorter
  exact Nat.lt_of_lt_of_le shorter (length_trimStart_le cs)

/-- The pairs of a text by its first pair. -/
theorem readPairs_eq (cs : List Char) :
    readPairs cs = match trimStart cs with
      | [] => some []
      | d :: ds => (readPair (d :: ds)).bind fun p => (readPairs p.2).map (p.1 :: ·) := by
  rw [readPairs]
  split
  case h_1 hskip => simp only [hskip]
  case h_2 d ds hskip =>
    simp only [hskip]
    split
    case h_1 hread => rw [hread, Option.bind_none]
    case h_2 p rest hread => rw [hread, Option.bind_some]

/-- The keyword arguments a text spells, if it is well formed; the last pair of a key
    wins. -/
def readKeywords (cs : List Char) : Option (Dict String) :=
  (readPairs cs).map Dict.ofList

end Markup
end BracketMark
