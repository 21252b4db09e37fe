import BracketMark.Proofs.Markup.Layout
import BracketMark.Proofs.Markup.Quoted

/-!
# Brackets that are given up

A bracket that neither becomes a tag nor a malformed span is text, together with what the search
for its end has passed over.  What it passes over holds no second bracket, so every bracket behind
it has its own chance, with one exception: the search respects values in quotes, and a value that
closes may hold brackets even though the span around it never ends.  A stray quote hides nothing.

`Hidden` says where a place lies inside such a value, by reading from the left and not by searching
for an end.  The search passes over what is hidden (`Hidden.passes`), and over no other opening
bracket (`hidden_of_passes`).
-/

namespace BracketMark
namespace Markup

open Text

/-! ## Stray quotes -/

/-- No quote of this kind closes in the text. -/
def Unclosed (quote : Char) (cs : List Char) : Prop :=
  ∀ left right, cs = left ++ quote :: right → closesQuote right = false

theorem Unclosed.not_closes {quote c : Char} {rest : List Char} (h : Unclosed quote (c :: rest)) :
    (c == quote && closesQuote rest) = false := by
  rw [Bool.and_eq_false_imp, beq_iff_eq]
  rintro rfl
  exact h [] rest rfl

theorem Unclosed.tail {quote c : Char} {rest : List Char} (h : Unclosed quote (c :: rest)) :
    Unclosed quote rest := fun left right hrest => h (c :: left) right (by rw [hrest]; rfl)

/-- Behind a quote stands either a value that closes or no quote that does. -/
theorem closed_or_unclosed (quote : Char) (cs : List Char) :
    (∃ value rest, cs = value ++ quote :: rest ∧ StaysOpen quote value ∧
      closesQuote rest = true) ∨ Unclosed quote cs := by
  induction cs with
  | nil =>
    refine Or.inr fun left right hnil => ?_
    exact absurd hnil.symm (List.append_ne_nil_of_right_ne_nil _ (List.cons_ne_nil _ _))
  | cons c cs ih =>
    by_cases hcloses : c = quote ∧ closesQuote cs = true
    · obtain ⟨rfl, hcloses⟩ := hcloses
      exact Or.inl ⟨[], cs, rfl, .nil, hcloses⟩
    · rcases ih with ⟨value, rest, rfl, hopen, hrest⟩ | hunclosed
      · refine Or.inl ⟨c :: value, rest, rfl, hopen.cons fun next hnext hquote => ?_, hrest⟩
        -- the value goes on with `next`, before which the quote did not close
        cases value with
        | nil => cases hnext
        | cons d value =>
          obtain rfl : d = next := Option.some.inj hnext
          have hnot : closesQuote (d :: (value ++ quote :: rest)) = false :=
            Bool.eq_false_iff.2 fun hd => hcloses ⟨hquote, hd⟩
          rw [closesQuote, Bool.or_eq_false_iff, beq_eq_false_iff_ne] at hnot
          exact hnot.symm
      · refine Or.inr fun left right hsplit => ?_
        cases left with
        | nil =>
          obtain ⟨rfl, rfl⟩ := List.cons.inj hsplit
          exact Bool.eq_false_iff.2 fun hright => hcloses ⟨rfl, hright⟩
        | cons d left => exact hunclosed left right (List.cons.inj hsplit).2

/-- The end that the first bracket of a text would give a span. -/
def firstBracket : Nat → List Char → SpanEnd
  | _, [] => .unterminated
  | size, c :: rest => (bracketEnd size c).orElse (firstBracket (size + 1) rest)

theorem orElse_unterminated (fallback : SpanEnd) : fallback.orElse .unterminated = fallback := by
  cases fallback with
  | unterminated => rfl
  | closed size => rfl
  | interrupted size => rfl

theorem orElse_assoc (a b c : SpanEnd) : (a.orElse b).orElse c = a.orElse (b.orElse c) := by
  cases a with
  | unterminated => rfl
  | closed size => rfl
  | interrupted size => rfl

/-- **A stray quote hides nothing**: the first bracket behind it ends the span. -/
theorem spanEndFrom_unclosed {quote : Char} {cs : List Char} (h : Unclosed quote cs)
    (fallback : SpanEnd) (size : Nat) :
    spanEndFrom (.quoted quote fallback) size cs = fallback.orElse (firstBracket size cs) := by
  induction cs generalizing fallback size with
  | nil => exact (orElse_unterminated fallback).symm
  | cons c rest ih =>
    rw [spanEndFrom, h.not_closes, if_neg Bool.false_ne_true, ih h.tail, orElse_assoc]
    rfl

theorem exists_size_firstBracket (front back : List Char) (size : Nat) :
    ∃ m, (firstBracket size (front ++ '[' :: back)).size? = some m ∧ m ≤ size + front.length := by
  induction front generalizing size with
  | nil => exact ⟨size, rfl, Nat.le_refl _⟩
  | cons c front ih =>
    obtain ⟨m, hm, hle⟩ := ih (size + 1)
    rw [List.cons_append, firstBracket, List.length_cons]
    cases hend : bracketEnd size c with
    | unterminated => exact ⟨m, hm, by omega⟩
    | closed k =>
      have hk : k = size := bracketEnd_size (by rw [hend]; rfl)
      exact ⟨k, rfl, by omega⟩
    | interrupted k =>
      have hk : k = size := bracketEnd_size (by rw [hend]; rfl)
      exact ⟨k, rfl, by omega⟩

/-! ## Places inside values that close -/

/-- `Hidden afterEquals front back`: the place between the two texts lies inside a value in quotes
    that closes.  Reading begins outside quotes, and `afterEquals` tells whether a quote would open
    a value there. -/
inductive Hidden : Bool → List Char → List Char → Prop
  | inside {quote : Char} {left right rest : List Char} (hquote : isQuote quote = true)
      (hopen : StaysOpen quote (left ++ right)) (hclose : closesQuote rest = true) :
      Hidden true (quote :: left) (right ++ quote :: rest)
  | char {afterEquals : Bool} {c : Char} {front back : List Char} (hopen : c ≠ '[')
      (hclose : c ≠ ']') (hquote : (afterEquals && isQuote c) = false)
      (h : Hidden (if isBlank c then afterEquals else c == '=') front back) :
      Hidden afterEquals (c :: front) back
  | value {quote : Char} {value front back : List Char} (hquote : isQuote quote = true)
      (hopen : StaysOpen quote value) (hclose : closesQuote (front ++ back) = true)
      (h : Hidden false front back) : Hidden true (quote :: (value ++ quote :: front)) back

/-! ## What the search passes over -/

/-- From here the search ends behind the place between the two texts, or not at all. -/
def Passes (afterEquals : Bool) (size : Nat) (front back : List Char) : Prop :=
  ∀ m, (spanEndFrom (.plain afterEquals) size (front ++ back)).size? = some m →
    size + front.length < m

theorem passes_char {afterEquals : Bool} {c : Char} (hopen : c ≠ '[') (hclose : c ≠ ']')
    (hquote : (afterEquals && isQuote c) = false) (size : Nat) (front back : List Char) :
    Passes afterEquals size (c :: front) back ↔
      Passes (if isBlank c then afterEquals else c == '=') (size + 1) front back := by
  have hsize : size + (c :: front).length = size + 1 + front.length := by
    rw [List.length_cons]
    omega
  rw [Passes, Passes, List.cons_append, spanEndFrom_char hopen hclose hquote, hsize]

theorem not_passes_bracket {afterEquals : Bool} {c : Char} (h : c = '[' ∨ c = ']') (size : Nat)
    (front back : List Char) : ¬Passes afterEquals size (c :: front) back := by
  intro hpasses
  rcases h with rfl | rfl
  · exact absurd (hpasses size rfl) (by omega)
  · exact absurd (hpasses size rfl) (by omega)

section

variable {quote : Char} (hquote : isQuote quote = true) {value : List Char}
  (hopen : StaysOpen quote value)

include hquote hopen

theorem passes_value {front back : List Char} (hclose : closesQuote (front ++ back) = true)
    (size : Nat) : Passes true size (quote :: (value ++ quote :: front)) back ↔
      Passes false (size + 1 + value.length + 1) front back := by
  have hsplit : quote :: (value ++ quote :: front) ++ back =
      quote :: (value ++ quote :: (front ++ back)) := by simp
  have hsize : size + (quote :: (value ++ quote :: front)).length =
      size + 1 + value.length + 1 + front.length := by
    rw [List.length_cons, List.length_append, List.length_cons]
    omega
  rw [Passes, Passes, hsplit, spanEndFrom_quote hquote, spanEndFrom_value hquote hopen _ _ hclose,
    hsize]

/-- Up to the closing quote the search passes over the whole value. -/
theorem passes_inside {left right rest : List Char} (hvalue : value = left ++ right)
    (hclose : closesQuote rest = true) (size : Nat) :
    Passes true size (quote :: left) (right ++ quote :: rest) := by
  intro m hend
  have hsplit : quote :: left ++ (right ++ quote :: rest) = quote :: (value ++ quote :: rest) := by
    simp [hvalue]
  rw [hsplit, spanEndFrom_quote hquote, spanEndFrom_value hquote hopen _ _ hclose] at hend
  rcases le_of_spanEndFrom hend with hnone | hle
  · rw [hnone] at hend
    cases hend
  · rw [hvalue, List.length_append] at hle
    rw [List.length_cons]
    omega

end

theorem not_passes_unclosed {quote : Char} (hquote : isQuote quote = true) {front back : List Char}
    (h : Unclosed quote (front ++ '[' :: back)) (size : Nat) :
    ¬Passes true size (quote :: front) ('[' :: back) := by
  intro hpasses
  obtain ⟨m, hm, hle⟩ := exists_size_firstBracket front back (size + 1)
  rw [Passes, List.cons_append, spanEndFrom_quote hquote, spanEndFrom_unclosed h,
    List.length_cons] at hpasses
  have hlt := hpasses m hm
  omega

theorem Hidden.passes {afterEquals : Bool} {front back : List Char}
    (h : Hidden afterEquals front back) (size : Nat) : Passes afterEquals size front back := by
  induction h generalizing size with
  | inside hquote hopen hclose => exact passes_inside hquote hopen rfl hclose size
  | char hopen hclose hquote _ ih => exact (passes_char hopen hclose hquote size _ _).2 (ih _)
  | value hquote hopen hclose _ ih => exact (passes_value hquote hopen hclose size).2 (ih _)

/-- **A bracket that the search passes over is hidden.**  Outside quotes a bracket ends the span,
    and behind a stray quote the first one does; so this one stands in a value that closes, be it
    the next one or a later one. -/
theorem hidden_of_passes {afterEquals : Bool} {size : Nat} {front back : List Char}
    (h : Passes afterEquals size front ('[' :: back)) : Hidden afterEquals front ('[' :: back) := by
  induction hlength : front.length using Nat.strong_induction_on generalizing afterEquals size front
  case _ length ih =>
  cases front with
  | nil => exact absurd (h size rfl) (Nat.lt_irrefl size)
  | cons c front =>
    rw [List.length_cons] at hlength
    cases hquote : afterEquals && isQuote c with
    | false =>
      have hbracket : ¬(c = '[' ∨ c = ']') := fun hc => not_passes_bracket hc _ _ _ h
      obtain ⟨hopen, hclose⟩ := not_or.1 hbracket
      rw [passes_char hopen hclose hquote] at h
      exact .char hopen hclose hquote (ih _ (by omega) h rfl)
    | true =>
      obtain ⟨rfl, hc⟩ := Bool.and_eq_true_iff.1 hquote
      rcases closed_or_unclosed c (front ++ '[' :: back) with
        ⟨value, rest, hsplit, hopen, hclose⟩ | hunclosed
      · rcases List.append_eq_append_iff.1 hsplit with ⟨right, rfl, hback⟩ | ⟨behind, rfl, hbehind⟩
        · rw [hback]
          exact .inside hc hopen hclose
        · -- the value closes before the bracket, which is to be looked for behind it
          cases behind with
          | nil =>
            obtain rfl : c = '[' := (List.cons.inj hbehind).1
            cases hc
          | cons d front =>
            obtain ⟨rfl, rfl⟩ := List.cons.inj hbehind
            rw [List.length_append, List.length_cons] at hlength
            rw [passes_value hc hopen hclose] at h
            exact .value hc hopen hclose (ih _ (by omega) h rfl)
      · exact absurd h (not_passes_unclosed hc hunclosed size)

/-! ## Tokens -/

theorem Begins.eq_append {cs after : List Char} {token : Token} (h : Begins cs token after) :
    cs = token.raw.toList ++ after := by
  cases h with
  | text hne htext hafter => rw [raw_text, String.toList_ofList]
  | span hend =>
    rw [raw_readSpan, String.toList_ofList]
    simp
  | interrupted hend =>
    rw [raw_text, String.toList_ofList]
    rfl
  | unterminated hend => rw [raw_text, String.toList_ofList, List.append_nil]

/-- The tokens from some place on are those of a text. -/
theorem exists_scan_behind {cs : List Char} {before rest : List Token}
    (h : scan cs = before ++ rest) : ∃ cs', scan cs' = rest := by
  induction before generalizing cs with
  | nil => exact ⟨cs, h⟩
  | cons token before ih =>
    obtain ⟨after, -, hafter⟩ := begins_of_scan h
    exact ih hafter

/-- How a text token that begins with a bracket came about. -/
theorem spanEnd_of_begins {cs after text : List Char} {raw : String}
    (h : Begins cs (.text raw) after) (hraw : raw.toList = '[' :: text) :
    spanEnd (text ++ after) = .interrupted text.length ∧ (∃ more, after = '[' :: more) ∨
      spanEnd text = .unterminated ∧ after = [] := by
  generalize htoken : Token.text raw = token at h
  cases h with
  | text hne htext hafter =>
    cases htoken
    rw [String.toList_ofList] at hraw
    exact absurd (hraw ▸ List.mem_cons_self) htext
  | @span content after hend =>
    exact absurd htoken.symm (readSpan_ne_text content raw)
  | @interrupted text' after hend =>
    cases htoken
    rw [String.toList_ofList] at hraw
    obtain ⟨-, rfl⟩ := List.cons.inj hraw
    exact Or.inl ⟨hend, after, rfl⟩
  | @unterminated text' hend =>
    cases htoken
    rw [String.toList_ofList] at hraw
    obtain ⟨-, rfl⟩ := List.cons.inj hraw
    exact Or.inr ⟨hend, rfl⟩

/-- **A bracket that is given up takes no other bracket with it**, but for those inside values in
    quotes that close.  Behind the text token that begins with it the text is at its end, or goes on
    with a bracket outside such values, and there the next token begins. -/
theorem hidden_of_text {markup raw : String} {before after : List Token} {text : List Char}
    (htokens : tokens markup = before ++ .text raw :: after) (hraw : raw.toList = '[' :: text) :
    (∀ front back, text = front ++ '[' :: back →
        Hidden false front ('[' :: back ++ (spell after).toList)) ∧
      (after = [] ∨ ∃ next others more, after = next :: others ∧ next.raw.toList = '[' :: more ∧
        ¬Hidden false text (spell after).toList) := by
  obtain ⟨cs, hcs⟩ := exists_scan_behind htokens
  obtain ⟨rest, hbegins, hrest⟩ := begins_of_scan hcs
  have hspell : (spell after).toList = rest := by rw [toList_spell, ← hrest, flatMap_raw_scan]
  rw [hspell]
  -- an end, if there is one, is where the token ends
  have hend : ∀ m, (spanEndFrom (.plain false) 0 (text ++ rest)).size? = some m →
      m = text.length := by
    intro m hm
    change (spanEnd (text ++ rest)).size? = some m at hm
    rcases spanEnd_of_begins hbegins hraw with ⟨hend, -⟩ | ⟨hend, rfl⟩
    · rw [hend] at hm
      exact (Option.some.inj hm).symm
    · rw [List.append_nil, hend] at hm
      cases hm
  refine ⟨?_, ?_⟩
  · rintro front back rfl
    have hpasses : Passes false 0 front ('[' :: back ++ rest) := by
      intro m hm
      rw [hend m (by simpa using hm), List.length_append, List.length_cons]
      omega
    exact hidden_of_passes hpasses
  · rcases spanEnd_of_begins hbegins hraw with ⟨hinterrupted, more, rfl⟩ | ⟨-, rfl⟩
    · cases after with
      | nil => cases hspell
      | cons next others =>
        obtain ⟨behind, hnext, -⟩ := begins_of_scan hrest
        have hne : next.raw.toList ≠ [] := fun hnil =>
          raw_ne_empty (hrest ▸ List.mem_cons_self) (String.toList_eq_nil_iff.1 hnil)
        obtain ⟨c, first, hfirst⟩ := List.exists_cons_of_ne_nil hne
        have hsplit := hnext.eq_append
        rw [hfirst] at hsplit
        obtain rfl : '[' = c := (List.cons.inj hsplit).1
        refine Or.inr ⟨next, others, first, rfl, hfirst, fun hhidden => ?_⟩
        have hpasses := hhidden.passes 0 text.length (congrArg SpanEnd.size? hinterrupted)
        omega
    · exact Or.inl (by rw [← hrest, scan])

/-- The bracket in the value is hidden, though the span around it never ends; the next token begins
    at a bracket behind the value. -/
theorem hidden_of_text_interrupted :
    tokens "[a=\"[i]x\" ['tis [b]" = [] ++ .text "[a=\"[i]x\" " :: tokens "['tis [b]" ∧
      Hidden false "a=\"".toList ("[i]x\" ".toList ++ (spell (tokens "['tis [b]")).toList) := by
  have htokens : tokens "[a=\"[i]x\" ['tis [b]" =
      [] ++ .text "[a=\"[i]x\" " :: tokens "['tis [b]" := by decide +kernel
  have hraw : "[a=\"[i]x\" ".toList = '[' :: "a=\"[i]x\" ".toList := rfl
  exact ⟨htokens, (hidden_of_text htokens hraw).1 "a=\"".toList "i]x\" ".toList rfl⟩

/-- A value that closes takes the brackets in it along, though it belongs to no tag. -/
theorem not_notMem_text_quoted :
    ¬∀ (markup raw : String) (text : List Char), .text raw ∈ tokens markup →
      raw.toList = '[' :: text → '[' ∉ text := by
  intro h
  have htokens : tokens "[i=\"[b]x[/b]\" y" = [.text "[i=\"[b]x[/b]\" y"] := by decide +kernel
  have hmem : .text "[i=\"[b]x[/b]\" y" ∈ tokens "[i=\"[b]x[/b]\" y" :=
    htokens ▸ List.mem_cons_self
  exact h _ _ "i=\"[b]x[/b]\" y".toList hmem rfl (by decide)

end Markup
end BracketMark
