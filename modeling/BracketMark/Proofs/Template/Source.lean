import BracketMark.Template.Reader

/-!
# Sources that read as given chunks

Templates that hold only names in their chunks are spelled in one way here, with one blank
around each word (`spell`), and read back (`chunks_spell`).  To know what such a template
reads as it is enough to name its chunks (`read_of_spelled`); no step of the reader has to be
taken for it.
-/

namespace BracketMark
namespace Template

/-! ## Spelling -/

/-- A word with the blank before it. -/
def Word.spell : Word → List Char
  | .name label => ' ' :: label.toList
  | _ => []

/-- Words with the end of their chunk. -/
def spellWords (close : Char) (words : List Word) : List Char :=
  words.flatMap Word.spell ++ [' ', close, '\x7d']

def Chunk.spell : Chunk → List Char
  | .text source => source.toList
  | .print words => '\x7b' :: '\x7b' :: spellWords '\x7d' words
  | .tag words => '\x7b' :: '%' :: spellWords '%' words

def spell (chunks : List Chunk) : List Char :=
  chunks.flatMap Chunk.spell

/-- Whether a text is a name. -/
def isIdentifier : List Char → Bool
  | [] => false
  | c :: cs => isNameStart c && cs.all isNameChar

def Word.isName : Word → Bool
  | .name label => isIdentifier label.toList
  | _ => false

/-- Whether the chunks are names and texts, with no brace in a text and no text next to
    another. -/
def areSpelled : List Chunk → Bool
  | [] => true
  | .text text :: rest =>
    text != "" && !text.toList.contains '\x7b' && areSpelled rest &&
      match rest with
      | .text _ :: _ => false
      | _ => true
  | .print words :: rest => words.all Word.isName && areSpelled rest
  | .tag words :: rest => words.all Word.isName && areSpelled rest

/-! ## Reading words -/

/-- The reader of words, without the bookkeeping of its termination. -/
theorem readWords_eq (close : Char) (cs : List Char) :
    readWords close cs =
      match skipSeparators cs with
      | [] => none
      | c :: rest =>
        if c = close ∧ rest.head? = some '\x7d' then some ([], rest.tail)
        else (readWord (c :: rest)).bind fun p =>
          (readWords close p.2).map fun q => (p.1 :: q.1, q.2) := by
  rw [readWords]
  split
  case h_1 h => rw [h]
  case h_2 c rest h =>
    simp only [h]
    split
    case isTrue => rfl
    case isFalse =>
      split
      case h_1 hread => rw [hread]; rfl
      case h_2 word after hread =>
        rw [hread, Option.bind_some]
        split
        case h_1 hwords => rw [hwords]; rfl
        case h_2 hwords => rw [hwords]; rfl

theorem readWords_close {close : Char} (hclose : separatesWords close = false)
    (rest : List Char) : readWords close (' ' :: close :: '\x7d' :: rest) = some ([], rest) := by
  have hskip : skipSeparators (' ' :: close :: '\x7d' :: rest) = close :: '\x7d' :: rest := by
    show (close :: '\x7d' :: rest).dropWhile separatesWords = _
    rw [List.dropWhile_cons, hclose, if_neg Bool.false_ne_true]
  rw [readWords_eq, hskip]
  exact if_pos ⟨rfl, rfl⟩

theorem not_separatesWords_of_isNameStart {c : Char} (h : isNameStart c = true) :
    separatesWords c = false := by
  cases hc : separatesWords c with
  | false => rfl
  | true =>
    simp only [separatesWords, Bool.or_eq_true, beq_iff_eq] at hc
    rcases hc with (((rfl | rfl) | rfl) | rfl) | rfl <;> exact absurd h (by decide)

/-- A name and the blank behind it. -/
theorem readWords_name {close c : Char} {name : String} {cs : List Char}
    (hname : name.toList = c :: cs) (hstart : isNameStart c = true)
    (hall : ∀ d ∈ cs, isNameChar d = true) (hclose : isNameStart close = false)
    (rest : List Char) :
    readWords close (' ' :: (name.toList ++ ' ' :: rest)) =
      (readWords close (' ' :: rest)).map fun q => (.name name :: q.1, q.2) := by
  have hskip : skipSeparators (' ' :: (name.toList ++ ' ' :: rest)) =
      c :: (cs ++ ' ' :: rest) := by
    rw [hname]
    show (c :: (cs ++ ' ' :: rest)).dropWhile separatesWords = _
    rw [List.dropWhile_cons, not_separatesWords_of_isNameStart hstart, if_neg Bool.false_ne_true]
  have hne : c ≠ close := by
    rintro rfl
    rw [hstart] at hclose
    cases hclose
  have htake : (cs ++ ' ' :: rest).takeWhile isNameChar = cs := by
    rw [List.takeWhile_append_of_pos hall]
    exact List.append_nil cs
  have hdrop : (cs ++ ' ' :: rest).dropWhile isNameChar = ' ' :: rest := by
    rw [List.dropWhile_append_of_pos hall]
    rfl
  have hword : readWord (c :: (cs ++ ' ' :: rest)) = some (.name name, ' ' :: rest) := by
    rw [readWord, if_pos hstart, htake, hdrop, ← hname, String.ofList_toList]
  rw [readWords_eq, hskip]
  simp only [hne, false_and, if_false, hword, Option.bind_some]

theorem exists_cons_of_isIdentifier {label : List Char} (h : isIdentifier label = true) :
    ∃ c cs, label = c :: cs ∧ isNameStart c = true ∧ ∀ d ∈ cs, isNameChar d = true := by
  cases label with
  | nil => cases h
  | cons c cs =>
    rw [isIdentifier, Bool.and_eq_true, List.all_eq_true] at h
    exact ⟨c, cs, rfl, h⟩

theorem spellWords_eq_cons (close : Char) {words : List Word}
    (h : words.all Word.isName = true) : ∃ more, spellWords close words = ' ' :: more := by
  cases words with
  | nil => exact ⟨_, rfl⟩
  | cons word words =>
    rw [List.all_cons, Bool.and_eq_true] at h
    cases word with
    | name label => exact ⟨_, rfl⟩
    | text text => cases h.1
    | int n => cases h.1
    | symbol c => cases h.1

theorem readWords_spell {close : Char} (hseparates : separatesWords close = false)
    (hstart : isNameStart close = false) {words : List Word}
    (h : words.all Word.isName = true) (rest : List Char) :
    readWords close (spellWords close words ++ rest) = some (words, rest) := by
  induction words with
  | nil => exact readWords_close hseparates rest
  | cons word words ih =>
    rw [List.all_cons, Bool.and_eq_true] at h
    cases word with
    | name label =>
      obtain ⟨c, cs, hlabel, hc, hall⟩ := exists_cons_of_isIdentifier h.1
      obtain ⟨more, hmore⟩ := spellWords_eq_cons close h.2
      have hspell : spellWords close (.name label :: words) ++ rest =
          ' ' :: (label.toList ++ ' ' :: (more ++ rest)) := by
        have : spellWords close (.name label :: words) =
            ' ' :: (label.toList ++ spellWords close words) := by
          simp [spellWords, Word.spell]
        rw [this, hmore]
        simp
      have hwords : readWords close (' ' :: (more ++ rest)) = some (words, rest) := by
        have := ih h.2
        rwa [hmore, List.cons_append] at this
      rw [hspell, readWords_name hlabel hc hall hstart, hwords]
      rfl
    | text text => cases h.1
    | int n => cases h.1
    | symbol c => cases h.1

/-! ## Reading chunks -/

theorem chunks_print {body rest : List Char} {words : List Word}
    (h : readWords '\x7d' body = some (words, rest)) :
    chunks ('\x7b' :: '\x7b' :: body) = (chunks rest).map (.print words :: ·) := by
  have hbegins : beginsChunk ('\x7b' :: '\x7b' :: body) = true := rfl
  rw [chunks, if_pos hbegins]
  split
  case h_1 heq => rw [h] at heq; cases heq; rfl
  case h_2 heq => rw [h] at heq; cases heq

theorem chunks_tag {body rest : List Char} {words : List Word}
    (h : readWords '%' body = some (words, rest)) :
    chunks ('\x7b' :: '%' :: body) = (chunks rest).map (.tag words :: ·) := by
  have hbegins : beginsChunk ('\x7b' :: '%' :: body) = true := rfl
  rw [chunks, if_pos hbegins]
  split
  case h_1 heq => rw [h] at heq; cases heq; rfl
  case h_2 heq => rw [h] at heq; cases heq

theorem beginsChunk_of_ne {c : Char} (h : c ≠ '\x7b') (cs : List Char) :
    beginsChunk (c :: cs) = false := by
  unfold beginsChunk
  split
  case h_1 heq =>
    cases heq
    exact absurd rfl h
  case h_2 => rfl

/-- Text up to the next chunk or the end. -/
theorem splitText_append {text rest : List Char} (htext : '\x7b' ∉ text)
    (hrest : rest = [] ∨ beginsChunk rest = true) : splitText (text ++ rest) = (text, rest) := by
  induction text with
  | nil =>
    cases rest with
    | nil => rfl
    | cons c rest =>
      rcases hrest with hrest | hrest
      · cases hrest
      · rw [List.nil_append, splitText, if_pos hrest]
  | cons c text ih =>
    have hc : c ≠ '\x7b' := fun hc => htext (hc ▸ List.mem_cons_self)
    rw [List.cons_append, splitText, beginsChunk_of_ne hc, if_neg Bool.false_ne_true,
      ih fun hmem => htext (List.mem_cons_of_mem c hmem)]

theorem chunks_text {text : String} {rest : List Char} (hne : text ≠ "")
    (htext : '\x7b' ∉ text.toList) (hrest : rest = [] ∨ beginsChunk rest = true) :
    chunks (text.toList ++ rest) = (chunks rest).map (.text text :: ·) := by
  obtain ⟨c, cs, hcons⟩ := List.exists_cons_of_ne_nil fun hnil =>
    hne (String.toList_eq_nil_iff.1 hnil)
  have hc : c ≠ '\x7b' := by
    rintro rfl
    exact htext (hcons ▸ List.mem_cons_self)
  have hcs : '\x7b' ∉ cs := fun hmem => htext (hcons ▸ List.mem_cons_of_mem c hmem)
  -- one step of the reader takes all of the text, for no chunk begins inside it
  have hsplit : chunks (c :: (cs ++ rest)) =
      (chunks (splitText (cs ++ rest)).2).map
        (.text (String.ofList (c :: (splitText (cs ++ rest)).1)) :: ·) := by
    rw [chunks.eq_def]
    simp only [beginsChunk_of_ne hc, Bool.false_eq_true, if_false]
  rw [hcons, List.cons_append, hsplit, splitText_append hcs hrest, ← hcons, String.ofList_toList]

/-- The source of chunks begins with a chunk where the first of them is no text. -/
theorem beginsChunk_spell {cs : List Chunk}
    (h : (match cs with | .text _ :: _ => false | _ => true) = true) :
    spell cs = [] ∨ beginsChunk (spell cs) = true := by
  cases cs with
  | nil => exact Or.inl rfl
  | cons chunk rest =>
    cases chunk with
    | text source => cases h
    | print words => exact Or.inr rfl
    | tag words => exact Or.inr rfl

/-- **Spelled chunks read back.** -/
theorem chunks_spell {cs : List Chunk} (h : areSpelled cs = true) :
    chunks (spell cs) = some cs := by
  induction cs with
  | nil =>
    show chunks [] = _
    rw [chunks]
  | cons chunk rest ih =>
    cases chunk with
    | text source =>
      simp only [areSpelled, Bool.and_eq_true, bne_iff_ne, Bool.not_eq_true',
        List.contains_eq_mem, decide_eq_false_iff_not] at h
      obtain ⟨⟨⟨hne, htext⟩, hrest⟩, hnext⟩ := h
      show chunks (source.toList ++ spell rest) = _
      rw [chunks_text hne htext (beginsChunk_spell hnext), ih hrest, Option.map_some]
    | print words =>
      rw [areSpelled, Bool.and_eq_true] at h
      show chunks ('\x7b' :: '\x7b' :: (spellWords '\x7d' words ++ spell rest)) = _
      rw [chunks_print (readWords_spell (by decide) (by decide) h.1 _), ih h.2, Option.map_some]
    | tag words =>
      rw [areSpelled, Bool.and_eq_true] at h
      show chunks ('\x7b' :: '%' :: (spellWords '%' words ++ spell rest)) = _
      rw [chunks_tag (readWords_spell (by decide) (by decide) h.1 _), ih h.2, Option.map_some]

/-- A final line feed is dropped. -/
theorem dropFinalBreak_append {source : List Char} (h : source.getLast? ≠ some '\r') :
    dropFinalBreak (source ++ ['\n']) = source := by
  have hfeed : dropLast '\n' (source ++ ['\n']) = source := by
    rw [dropLast, List.getLast?_concat, if_pos rfl, List.dropLast_concat]
  rw [dropFinalBreak, hfeed, dropLast, if_neg h]

/-- The last character of a source is that of its last chunk. -/
theorem getLast?_spell {cs : List Chunk} {chunk : Chunk} {c : Char}
    (hchunk : cs.getLast? = some chunk) (hc : chunk.spell.getLast? = some c) :
    (spell cs).getLast? = some c := by
  obtain ⟨front, rfl⟩ := List.getLast?_eq_some_iff.1 hchunk
  obtain ⟨start, hstart⟩ := List.getLast?_eq_some_iff.1 hc
  rw [spell, List.flatMap_append, List.flatMap_singleton, hstart, ← List.append_assoc,
    List.getLast?_concat]

/-- What the source of given chunks, with a line feed at its end, reads as. -/
theorem read_of_spelled {name source : String} {cs : List Chunk} {chunk : Chunk} {c : Char}
    {parts : List Part} (hsource : source.toList = spell cs ++ ['\n'])
    (hcs : areSpelled cs = true) (hchunk : cs.getLast? = some chunk)
    (hlast : chunk.spell.getLast? = some c) (hc : c ≠ '\r') (hparts : readParts cs = some parts) :
    read name source = some ⟨escapes name, parts⟩ := by
  have hbreak : (spell cs).getLast? ≠ some '\r' := by
    rw [getLast?_spell hchunk hlast]
    exact fun h => hc (Option.some.inj h)
  rw [read, hsource, dropFinalBreak_append hbreak, chunks_spell hcs, Option.bind_some, hparts]
  rfl

end Template
end BracketMark
