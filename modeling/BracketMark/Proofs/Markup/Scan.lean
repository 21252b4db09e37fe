import BracketMark.Markup.Token

/-!
# Tokens and the text they are read from

Two facts about reading tokens that everything about markup rests on.  No character gets
lost: the spellings of the tokens, put together, are the text (`flatMap_raw_scan`).  And a
token does not depend on what stands around it: its spelling, read alone, is that one token
again (`scan_raw`).  The second is not obvious, since the search for the end of a span looks
for a closing quote as far as the text goes, and takes the end of the text for a place where
a quote may close.  Each token takes a character at least, so there are no more tokens than
characters (`length_scan_le`); `tokens_lossless` says all of it for a markup text.
-/

namespace BracketMark
namespace Markup

open Text

/-! ## The search for the end of a span -/

/-- How a span ends if the text ends here. -/
def SpanMode.fallback : SpanMode → SpanEnd
  | .plain _ => .unterminated
  | .quoted _ fallback => fallback

/-- What a search waits for, if it is inside a quote, is one of the two quotes. -/
def SpanMode.WellQuoted : SpanMode → Prop
  | .plain _ => True
  | .quoted quote _ => isQuote quote = true

@[simp] theorem bracketEnd_close (size : Nat) : bracketEnd size ']' = .closed size := rfl

theorem bracketEnd_eq_closed {size m : Nat} {c : Char} (h : bracketEnd size c = .closed m) :
    c = ']' ∧ m = size := by
  unfold bracketEnd at h
  split at h
  case isTrue hc => exact ⟨hc, (SpanEnd.closed.inj h).symm⟩
  case isFalse => split at h <;> cases h

theorem bracketEnd_eq_interrupted {size m : Nat} {c : Char}
    (h : bracketEnd size c = .interrupted m) : c = '[' ∧ m = size := by
  unfold bracketEnd at h
  split at h
  case isTrue => cases h
  case isFalse =>
    split at h
    case isTrue hc => exact ⟨hc, (SpanEnd.interrupted.inj h).symm⟩
    case isFalse => cases h

theorem orElse_eq_closed {fallback found : SpanEnd} {m : Nat}
    (h : fallback.orElse found = .closed m) :
    fallback = .closed m ∨ (fallback = .unterminated ∧ found = .closed m) := by
  cases fallback with
  | unterminated => exact Or.inr ⟨rfl, h⟩
  | closed k => exact Or.inl h
  | interrupted k => exact Or.inl h

theorem orElse_eq_interrupted {fallback found : SpanEnd} {m : Nat}
    (h : fallback.orElse found = .interrupted m) :
    fallback = .interrupted m ∨ (fallback = .unterminated ∧ found = .interrupted m) := by
  cases fallback with
  | unterminated => exact Or.inr ⟨rfl, h⟩
  | closed k => exact Or.inl h
  | interrupted k => exact Or.inl h

/-- Whether a quote closes is read off the next character alone. -/
theorem closesQuote_append_cons (pre : List Char) (c : Char) (post : List Char) :
    closesQuote (pre ++ c :: post) = closesQuote (pre ++ [c]) := by
  cases pre <;> rfl

/-- A quote right before an opening bracket does not close. -/
theorem closesQuote_append_open {pre post : List Char}
    (h : closesQuote (pre ++ '[' :: post) = true) : closesQuote pre = true := by
  cases pre with
  | nil => simp [closesQuote, isBlank] at h
  | cons c pre => exact h

/-- A search that ends at a bracket of the text, and would end there without the text behind
    it. -/
def EndsAt (mode : SpanMode) (size : Nat) (cs : List Char) (m : Nat) : Prop :=
  ∃ pre post, cs = pre ++ ']' :: post ∧ m = size + pre.length ∧
    spanEndFrom mode size (pre ++ [']']) = .closed m

/-- One character further to the left, if the search goes from there as it did before,
    whatever follows the bracket. -/
theorem EndsAt.cons {mode mode' : SpanMode} {size m : Nat} {c : Char} {rest : List Char}
    (h : EndsAt mode' (size + 1) rest m)
    (step : ∀ pre post, rest = pre ++ ']' :: post →
      spanEndFrom mode size (c :: pre ++ [']']) = spanEndFrom mode' (size + 1) (pre ++ [']'])) :
    EndsAt mode size (c :: rest) m := by
  obtain ⟨pre, post, hcs, hm, he⟩ := h
  refine ⟨c :: pre, post, by rw [hcs]; rfl, ?_, ?_⟩
  · rw [hm, List.length_cons]
    omega
  · rw [step pre post hcs, he]

/-- **A closed span does not depend on what follows it.**  The induction is over the text,
    for every mode at once: a bracket that a quote hides may still become the end, and is
    then found as the fallback of the mode. -/
theorem spanEndFrom_eq_closed {mode : SpanMode} {size m : Nat} {cs : List Char}
    (h : spanEndFrom mode size cs = .closed m) (hq : mode.WellQuoted) :
    mode.fallback = .closed m ∨ EndsAt mode size cs m := by
  induction cs generalizing mode size with
  | nil =>
    cases mode with
    | plain b => cases h
    | quoted q fallback => exact Or.inl h
  | cons c rest ih =>
    cases mode with
    | plain b =>
      refine Or.inr ?_
      simp only [spanEndFrom] at h
      split at h
      case h_1 hc =>
        split at h
        case isTrue hquote =>
          have hquoted : isQuote c = true := (Bool.and_eq_true_iff.1 hquote).2
          rcases ih h hquoted with hf | he
          · cases hf
          · apply he.cons
            intro pre post _
            simp only [List.cons_append, spanEndFrom, hc, hquote, if_true]
        case isFalse hquote =>
          rcases ih h trivial with hf | he
          · cases hf
          · apply he.cons
            intro pre post _
            simp only [List.cons_append, spanEndFrom, hc, if_neg hquote]
      case h_2 =>
        obtain ⟨rfl, rfl⟩ := bracketEnd_eq_closed h
        exact ⟨[], rest, rfl, rfl, rfl⟩
    | quoted q fallback =>
      simp only [spanEndFrom] at h
      split at h
      case isTrue hclose =>
        rcases ih h trivial with hf | he
        · cases hf
        · apply Or.inr
          apply he.cons
          intro pre post hcs
          rw [hcs, closesQuote_append_cons] at hclose
          simp only [List.cons_append, spanEndFrom, if_pos hclose]
      case isFalse hopen =>
        rcases ih h hq with hf | he
        · rcases orElse_eq_closed hf with hf | ⟨rfl, hf⟩
          · exact Or.inl hf
          · -- the bracket at hand is the end: alone it is the last character, and no quote
            obtain ⟨rfl, rfl⟩ := bracketEnd_eq_closed hf
            have hne : (']' == q) = false := by
              rw [beq_eq_false_iff_ne]
              rintro rfl
              exact absurd (show isQuote ']' = true from hq) (by decide)
            exact Or.inr ⟨[], rest, rfl, rfl, by simp [spanEndFrom, hne, SpanEnd.orElse]⟩
        · apply Or.inr
          apply he.cons
          intro pre post hcs
          rw [hcs, closesQuote_append_cons] at hopen
          simp only [List.cons_append, spanEndFrom, if_neg hopen]

/-- A search that breaks off at an opening bracket of the text, and would find no end without
    the text behind it. -/
def BreaksAt (mode : SpanMode) (size : Nat) (cs : List Char) (m : Nat) : Prop :=
  ∃ pre post, cs = pre ++ '[' :: post ∧ m = size + pre.length ∧
    spanEndFrom mode size pre = .unterminated

theorem BreaksAt.cons {mode mode' : SpanMode} {size m : Nat} {c : Char} {rest : List Char}
    (h : BreaksAt mode' (size + 1) rest m)
    (step : ∀ pre post, rest = pre ++ '[' :: post →
      spanEndFrom mode' (size + 1) pre = .unterminated →
      spanEndFrom mode size (c :: pre) = .unterminated) :
    BreaksAt mode size (c :: rest) m := by
  obtain ⟨pre, post, hcs, hm, he⟩ := h
  refine ⟨c :: pre, post, by rw [hcs]; rfl, ?_, step pre post hcs he⟩
  rw [hm, List.length_cons]
  omega

/-- **An interrupted span has no end of its own.**  The cut may let a quote close that did
    not close before the bracket, but then nothing follows it. -/
theorem spanEndFrom_eq_interrupted {mode : SpanMode} {size m : Nat} {cs : List Char}
    (h : spanEndFrom mode size cs = .interrupted m) :
    mode.fallback = .interrupted m ∨ BreaksAt mode size cs m := by
  induction cs generalizing mode size with
  | nil =>
    cases mode with
    | plain b => cases h
    | quoted q fallback => exact Or.inl h
  | cons c rest ih =>
    cases mode with
    | plain b =>
      refine Or.inr ?_
      simp only [spanEndFrom] at h
      split at h
      case h_1 hc =>
        split at h
        case isTrue hquote =>
          rcases ih h with hf | he
          · cases hf
          · apply he.cons
            intro pre post _ he
            simp only [spanEndFrom, hc, hquote, if_true, he]
        case isFalse hquote =>
          rcases ih h with hf | he
          · cases hf
          · apply he.cons
            intro pre post _ he
            simp only [spanEndFrom, hc, if_neg hquote, he]
      case h_2 =>
        obtain ⟨rfl, rfl⟩ := bracketEnd_eq_interrupted h
        exact ⟨[], rest, rfl, rfl, rfl⟩
    | quoted q fallback =>
      simp only [spanEndFrom] at h
      split at h
      case isTrue hclose =>
        rcases ih h with hf | he
        · cases hf
        · apply Or.inr
          apply he.cons
          intro pre post hcs he
          have hcut : (c == q && closesQuote pre) = true := by
            rw [Bool.and_eq_true_iff] at hclose ⊢
            exact ⟨hclose.1, closesQuote_append_open (hcs ▸ hclose.2)⟩
          simp only [spanEndFrom, if_pos hcut, he]
      case isFalse hopen =>
        rcases ih h with hf | he
        · rcases orElse_eq_interrupted hf with hf | ⟨rfl, hf⟩
          · exact Or.inl hf
          · obtain ⟨rfl, rfl⟩ := bracketEnd_eq_interrupted hf
            exact Or.inr ⟨[], rest, rfl, rfl, rfl⟩
        · apply Or.inr
          apply he.cons
          intro pre post hcs he
          simp only [spanEndFrom]
          split
          case isTrue hcut =>
            cases pre with
            | nil => rfl
            | cons d pre => exact absurd (hcs ▸ hcut) hopen
          case isFalse => exact he

/-- The content of a span that ends with this bracket. -/
def SpanEnd.size? : SpanEnd → Option Nat
  | .closed size => some size
  | .interrupted size => some size
  | .unterminated => none

theorem bracketEnd_size {size m : Nat} {c : Char} (h : (bracketEnd size c).size? = some m) :
    m = size := by
  unfold bracketEnd at h
  split at h
  · exact (Option.some.inj h).symm
  · split at h
    · exact (Option.some.inj h).symm
    · cases h

/-- A search ends at a bracket that is still to come, unless with the end that its mode has
    found. -/
theorem le_of_spanEndFrom {mode : SpanMode} {size m : Nat} {cs : List Char}
    (h : (spanEndFrom mode size cs).size? = some m) :
    spanEndFrom mode size cs = mode.fallback ∨ size ≤ m := by
  induction cs generalizing mode size with
  | nil =>
    cases mode with
    | plain b => exact Or.inl rfl
    | quoted q fallback => exact Or.inl rfl
  | cons c rest ih =>
    -- the search goes on in a mode that has found nothing: its end is still to come
    have later {mode' : SpanMode} (hnone : mode'.fallback = .unterminated)
        (h : (spanEndFrom mode' (size + 1) rest).size? = some m) : size ≤ m := by
      rcases ih h with hfallback | hle
      · rw [hfallback, hnone] at h
        cases h
      · omega
    cases mode with
    | plain b =>
      refine Or.inr ?_
      simp only [spanEndFrom] at h
      split at h
      case h_1 =>
        split at h
        case isTrue => exact later rfl h
        case isFalse => exact later rfl h
      case h_2 => exact Nat.le_of_eq (bracketEnd_size h).symm
    | quoted q fallback =>
      simp only [spanEndFrom] at h ⊢
      split at h
      case isTrue => exact Or.inr (later rfl h)
      case isFalse hopen =>
        rw [if_neg hopen]
        rcases ih h with hfallback | hle
        · rw [hfallback] at h ⊢
          cases fallback with
          | unterminated => exact Or.inr (Nat.le_of_eq (bracketEnd_size h).symm)
          | closed k => exact Or.inl rfl
          | interrupted k => exact Or.inl rfl
        · exact Or.inr (by omega)

/-! ## The end of a span -/

theorem spanEnd_eq_closed {cs : List Char} {size : Nat} (h : spanEnd cs = .closed size) :
    ∃ content rest, cs = content ++ ']' :: rest ∧ content.length = size ∧
      spanEnd (content ++ [']']) = .closed content.length := by
  have hscan : spanEndFrom (.plain false) 0 cs = .closed size := h
  rcases spanEndFrom_eq_closed hscan trivial with hf | he
  · cases hf
  · obtain ⟨content, rest, hcs, hsize, he⟩ := he
    rw [Nat.zero_add] at hsize
    exact ⟨content, rest, hcs, hsize.symm, hsize ▸ he⟩

theorem spanEnd_eq_interrupted {cs : List Char} {size : Nat}
    (h : spanEnd cs = .interrupted size) :
    ∃ text rest, cs = text ++ '[' :: rest ∧ text.length = size ∧
      spanEnd text = .unterminated := by
  rcases spanEndFrom_eq_interrupted h with hf | he
  · cases hf
  · obtain ⟨text, rest, hcs, hsize, he⟩ := he
    rw [Nat.zero_add] at hsize
    exact ⟨text, rest, hcs, hsize.symm, he⟩

/-! ## Tokens from the left -/

@[simp] theorem raw_text (raw : String) : (Token.text raw).raw = raw := rfl

@[simp] theorem raw_opening (raw : String) (tag : Opening) : (Token.opening raw tag).raw = raw :=
  rfl

@[simp] theorem raw_closing (raw name : String) : (Token.closing raw name).raw = raw := rfl

theorem raw_readSpan (content : List Char) :
    (readSpan content).raw = String.ofList ('[' :: content ++ [']']) := by
  unfold readSpan
  split
  · split <;> rfl
  · split <;> rfl

/-- A span is a tag or malformed, never plain text. -/
theorem readSpan_ne_text (content : List Char) (raw : String) : readSpan content ≠ .text raw := by
  unfold readSpan
  split
  · split <;> simp
  · split <;> simp

theorem readSpan_of_head?_ne {content : List Char} (h : content.head? ≠ some '/') :
    readSpan content = match readOpening content with
      | some tag => .opening (String.ofList ('[' :: content ++ [']'])) tag
      | none => .malformed (String.ofList ('[' :: content ++ [']'])) := by
  unfold readSpan
  split
  case h_1 rest => exact absurd rfl h
  case h_2 => rfl

theorem drop_content (content : List Char) (c : Char) (rest : List Char) :
    (content ++ c :: rest).drop (content.length + 1) = rest := by
  simp

/-- A bracketed span at the front of a text is one token. -/
theorem scan_span {content rest : List Char}
    (h : spanEnd (content ++ ']' :: rest) = .closed content.length) :
    scan ('[' :: (content ++ ']' :: rest)) = readSpan content :: scan rest := by
  rw [scan, if_pos rfl, h]
  simp only [List.take_left, drop_content]

/-- Text without an opening bracket in front of one, or at the end, is one token. -/
theorem scan_text {text rest : List Char} (hne : text ≠ []) (htext : '[' ∉ text)
    (hrest : rest = [] ∨ ∃ after, rest = '[' :: after) :
    scan (text ++ rest) = .text (String.ofList text) :: scan rest := by
  obtain ⟨c, text, rfl⟩ := List.exists_cons_of_ne_nil hne
  have hc : c ≠ '[' := fun hc => htext (hc ▸ List.mem_cons_self)
  have hall : ∀ d ∈ text, (d != '[') = true := by
    intro d hd
    rw [bne_iff_ne]
    rintro rfl
    exact htext (List.mem_cons_of_mem c hd)
  have htake : (text ++ rest).takeWhile (· != '[') = text := by
    rw [List.takeWhile_append_of_pos hall]
    rcases hrest with rfl | ⟨after, rfl⟩
    · simp
    · simp
  have hdrop : (text ++ rest).dropWhile (· != '[') = rest := by
    rw [List.dropWhile_append_of_pos hall]
    rcases hrest with rfl | ⟨after, rfl⟩
    · rfl
    · simp
  rw [List.cons_append, scan, if_neg hc, htake, hdrop]

theorem scan_interrupted {text rest : List Char}
    (h : spanEnd (text ++ '[' :: rest) = .interrupted text.length) :
    scan ('[' :: (text ++ '[' :: rest)) =
      .text (String.ofList ('[' :: text)) :: scan ('[' :: rest) := by
  rw [scan, if_pos rfl, h]
  simp only [List.take_left, List.drop_left]

theorem scan_unterminated {text : List Char} (h : spanEnd text = .unterminated) :
    scan ('[' :: text) = [.text (String.ofList ('[' :: text))] := by
  rw [scan, if_pos rfl, h]

/-- The text from a character that begins no span up to the next bracket. -/
theorem takeWhile_no_bracket {c : Char} {cs : List Char} (hc : c ≠ '[') :
    '[' ∉ c :: cs.takeWhile (· != '[') := by
  intro hmem
  rcases List.mem_cons.1 hmem with h | h
  · exact hc h.symm
  · have hall := List.all_eq_true.1 (List.all_takeWhile (p := (· != '[')) (l := cs)) _ h
    exact absurd rfl (bne_iff_ne.1 hall)

/-- How a text begins: its first token, and the text behind that. -/
inductive Begins : List Char → Token → List Char → Prop
  | text {text after : List Char} (hne : text ≠ []) (htext : '[' ∉ text)
      (hafter : after = [] ∨ ∃ more, after = '[' :: more) :
      Begins (text ++ after) (.text (String.ofList text)) after
  | span {content after : List Char}
      (hend : spanEnd (content ++ ']' :: after) = .closed content.length) :
      Begins ('[' :: (content ++ ']' :: after)) (readSpan content) after
  | interrupted {text after : List Char}
      (hend : spanEnd (text ++ '[' :: after) = .interrupted text.length) :
      Begins ('[' :: (text ++ '[' :: after)) (.text (String.ofList ('[' :: text))) ('[' :: after)
  | unterminated {text : List Char} (hend : spanEnd text = .unterminated) :
      Begins ('[' :: text) (.text (String.ofList ('[' :: text))) []

theorem begins_of_scan {cs : List Char} {token : Token} {tokens : List Token}
    (h : scan cs = token :: tokens) : ∃ after, Begins cs token after ∧ scan after = tokens := by
  rw [scan.eq_def] at h
  split at h
  case h_1 => cases h
  case h_2 c rest =>
    split at h
    case isTrue hc =>
      subst hc
      split at h
      case h_1 size hend =>
        obtain ⟨content, after, rfl, rfl, -⟩ := spanEnd_eq_closed hend
        rw [List.take_left, drop_content] at h
        cases h
        exact ⟨after, .span hend, rfl⟩
      case h_2 size hend =>
        obtain ⟨text, after, rfl, rfl, -⟩ := spanEnd_eq_interrupted hend
        rw [List.take_left, List.drop_left] at h
        cases h
        exact ⟨_, .interrupted hend, rfl⟩
      case h_3 hend =>
        cases h
        exact ⟨[], .unterminated hend, by rw [scan]⟩
    case isFalse hc =>
      cases h
      refine ⟨rest.dropWhile (· != '['), ?_, rfl⟩
      have hsplit : c :: rest = (c :: rest.takeWhile (· != '[')) ++ rest.dropWhile (· != '[') := by
        rw [List.cons_append, List.takeWhile_append_dropWhile]
      rw [hsplit]
      refine .text (List.cons_ne_nil _ _) (takeWhile_no_bracket hc) ?_
      cases hafter : rest.dropWhile (· != '[') with
      | nil => exact Or.inl rfl
      | cons d more =>
        have hd := List.head?_dropWhile_not (· != '[') rest
        rw [hafter] at hd
        exact Or.inr ⟨more, by simpa using hd⟩

/-- **No character gets lost.** -/
theorem flatMap_raw_scan (cs : List Char) : (scan cs).flatMap (·.raw.toList) = cs := by
  induction cs using scan.induct with
  | case1 => rw [scan]; rfl
  | case2 rest size h ih =>
    obtain ⟨content, after, rfl, rfl, -⟩ := spanEnd_eq_closed h
    rw [drop_content] at ih
    rw [scan_span h, List.flatMap_cons, raw_readSpan, ih]
    simp
  | case3 rest size h ih =>
    obtain ⟨text, after, rfl, rfl, -⟩ := spanEnd_eq_interrupted h
    rw [List.drop_left] at ih
    rw [scan_interrupted h, List.flatMap_cons, ih]
    simp
  | case4 rest h => simp [scan_unterminated h]
  | case5 c rest hc ih =>
    rw [scan, if_neg hc, List.flatMap_cons, ih]
    simp [List.takeWhile_append_dropWhile]

/-- **A token read alone is that token.** -/
theorem scan_raw {cs : List Char} {token : Token} (h : token ∈ scan cs) :
    scan token.raw.toList = [token] := by
  induction cs using scan.induct with
  | case1 =>
    rw [scan] at h
    cases h
  | case2 rest size hend ih =>
    obtain ⟨content, after, rfl, rfl, halone⟩ := spanEnd_eq_closed hend
    rw [scan_span hend] at h
    rcases List.mem_cons.1 h with rfl | h
    · rw [raw_readSpan, String.toList_ofList]
      have := scan_span halone
      rwa [scan] at this
    · exact ih (by simpa using h)
  | case3 rest size hend ih =>
    obtain ⟨text, after, rfl, rfl, halone⟩ := spanEnd_eq_interrupted hend
    rw [scan_interrupted hend] at h
    rcases List.mem_cons.1 h with rfl | h
    · rw [raw_text, String.toList_ofList]
      exact scan_unterminated halone
    · exact ih (by simpa using h)
  | case4 rest hend =>
    rw [scan_unterminated hend] at h
    rw [List.mem_singleton.1 h, raw_text, String.toList_ofList]
    exact scan_unterminated hend
  | case5 c rest hc ih =>
    rw [scan, if_neg hc] at h
    rcases List.mem_cons.1 h with rfl | h
    · rw [raw_text, String.toList_ofList]
      have hname : '[' ∉ c :: rest.takeWhile (· != '[') := takeWhile_no_bracket hc
      have := scan_text (List.cons_ne_nil c _) hname (Or.inl rfl)
      rwa [List.append_nil, scan] at this
    · exact ih h

theorem raw_ne_empty {cs : List Char} {token : Token} (h : token ∈ scan cs) : token.raw ≠ "" := by
  intro hraw
  have halone := scan_raw h
  rw [hraw, String.toList_empty, scan] at halone
  cases halone

/-! ## The tokens of a text -/

/-- Each token takes at least one character. -/
theorem length_scan_le (cs : List Char) : (scan cs).length ≤ cs.length := by
  induction cs using scan.induct with
  | case1 => simp [scan]
  | case2 rest size h ih =>
    rw [List.length_drop] at ih
    simp only [scan, if_pos, h, List.length_cons]
    omega
  | case3 rest size h ih =>
    rw [List.length_drop] at ih
    simp only [scan, if_pos, h, List.length_cons]
    omega
  | case4 rest h => simp [scan_unterminated h]
  | case5 c rest hc ih =>
    have hrest := (List.dropWhile_suffix (l := rest) (· != '[')).length_le
    rw [scan, if_neg hc, List.length_cons, List.length_cons]
    omega

/-- **Reading tokens is lossless, and every token stands for itself.**  There are no more tokens
    than characters, none is spelled with no character at all, and their spellings in a row are
    the text; and each spelling, read on its own, is that token again and no other, whatever stood
    behind it. -/
theorem tokens_lossless (markup : String) :
    (tokens markup).length ≤ markup.length ∧
      String.join ((tokens markup).map Token.raw) = markup ∧
      ∀ token ∈ tokens markup, token.raw ≠ "" ∧ tokens token.raw = [token] := by
  refine ⟨length_scan_le markup.toList, ?_, fun token htoken => ?_⟩
  · rw [← String.toList_inj, String.toList_join, List.flatMap_map, tokens, flatMap_raw_scan]
  · exact ⟨raw_ne_empty htoken, scan_raw htoken⟩

/-- The quote does not close before the `x`, so the first bracket that it hides ends the span;
    read alone, too, the tag ends there. -/
theorem tokens_lossless_openQuote :
    let tag := Token.opening "[quote='tis]" ⟨"quote", some "'tis", .empty⟩
    tag ∈ tokens "[quote='tis]don't [b]x[/b]" ∧ tokens "[quote='tis]" = [tag] := by
  intro tag
  have htokens : tokens "[quote='tis]don't [b]x[/b]" =
      tag :: tokens "don't [b]x[/b]" := by decide +kernel
  have hmem : tag ∈ tokens "[quote='tis]don't [b]x[/b]" := htokens ▸ List.mem_cons_self
  exact ⟨hmem, ((tokens_lossless "[quote='tis]don't [b]x[/b]").2.2 tag hmem).2⟩

end Markup
end BracketMark
