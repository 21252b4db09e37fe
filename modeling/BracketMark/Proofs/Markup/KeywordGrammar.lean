import Mathlib.Data.List.TakeWhile
import BracketMark.Proofs.Markup.Quoted
import BracketMark.Proofs.Text.Fold

/-!
# The grammar of keyword arguments

What a text of keyword arguments looks like, said without reading it: blanks, pairs with blanks
between them, blanks (`KeywordText`).  A pair is a key, an equals sign and a value; a value stands
between quotes, or has no blanks and does not begin with a quote.

The reader goes from pair to pair and never looks back, while the grammar puts the blanks between
two pairs.  Both see the same, since a value that is read to its end is followed by a blank or by
nothing (`atBreak`), so this module first takes the grammar apart from the left
(`keywordText_cons_iff`), then shows that the reader does so step by step, a value, a pair, all
pairs (`readValue_eq_some_iff`, `readPair_eq_some_iff`, `readPairs_eq_some_iff`).
-/

namespace BracketMark
namespace Markup

open Text

/-! ## The grammar -/

/-- Blanks, or nothing. -/
def Blanks (cs : List Char) : Prop :=
  ∀ c ∈ cs, isBlank c = true

/-- A value as it is written, and what it says. -/
inductive ValueForm : List Char → List Char → Prop
  | quoted {quote : Char} {value : List Char} (hquote : isQuote quote = true)
      (hvalue : quote ∉ value) : ValueForm (between quote value) value
  | bare {value : List Char} (hblank : ∀ c ∈ value, isBlank c = false)
      (hfirst : ∀ c more, value = c :: more → isQuote c = false) : ValueForm value value

/-- A pair as it is written, and its key, as it is written, with what its value says. -/
inductive PairForm : List Char → String × String → Prop
  | mk {key written value : List Char} (hne : key ≠ []) (hkey : ∀ c ∈ key, isNameChar c = true)
      (hvalue : ValueForm written value) :
      PairForm (key ++ '=' :: written) (String.ofList key, String.ofList value)

/-- Pairs with blanks between them. -/
inductive PairsForm : List Char → List (String × String) → Prop
  | none : PairsForm [] []
  | last {written : List Char} {pair : String × String} (hpair : PairForm written pair) :
      PairsForm written [pair]
  | more {written blanks rest : List Char} {pair next : String × String}
      {pairs : List (String × String)} (hpair : PairForm written pair) (hblanks : Blanks blanks)
      (hne : blanks ≠ []) (hrest : PairsForm rest (next :: pairs)) :
      PairsForm (written ++ blanks ++ rest) (pair :: next :: pairs)

/-- A text of keyword arguments, and its pairs. -/
def KeywordText (cs : List Char) (pairs : List (String × String)) : Prop :=
  ∃ before body after, cs = before ++ body ++ after ∧ Blanks before ∧ PairsForm body pairs ∧
    Blanks after

/-- Each key in lower case is bound to the value of its last pair, and nothing else is bound. -/
def BindsLast (kwargs : Dict String) (pairs : List (String × String)) : Prop :=
  ∀ key value, kwargs.get? key = some value ↔ ∃ before last after, pairs = before ++ last :: after ∧
    foldCase last.1 = key ∧ last.2 = value ∧ ∀ later ∈ after, foldCase later.1 ≠ key

/-! ## Blanks -/

theorem blanks_append {cs ds : List Char} : Blanks (cs ++ ds) ↔ Blanks cs ∧ Blanks ds :=
  List.forall_mem_append

theorem trimStart_eq_nil_iff {cs : List Char} : trimStart cs = [] ↔ Blanks cs :=
  List.dropWhile_eq_nil_iff

theorem atBreak_of_blanks {blanks rest : List Char} (hblanks : Blanks blanks)
    (h : blanks ≠ [] ∨ rest = []) : atBreak (blanks ++ rest) = true := by
  cases blanks with
  | nil => rw [h.resolve_left (· rfl)]; rfl
  | cons c blanks => exact hblanks c List.mem_cons_self

/-- Blanks and the text behind them. -/
theorem exists_blanks (cs : List Char) : ∃ blanks, Blanks blanks ∧ cs = blanks ++ trimStart cs :=
  ⟨cs.takeWhile isBlank, fun _ hc => List.mem_takeWhile_imp hc,
    List.takeWhile_append_dropWhile.symm⟩

/-! ## The grammar from the left -/

theorem PairForm.head {written : List Char} {pair : String × String} (h : PairForm written pair) :
    ∃ c more, written = c :: more ∧ isBlank c = false := by
  cases h with
  | mk hne hkey hvalue =>
    obtain ⟨k, ks, rfl⟩ := List.exists_cons_of_ne_nil hne
    exact ⟨k, _, List.cons_append, isBlank_of_isNameChar (hkey k List.mem_cons_self)⟩

theorem PairsForm.head {body : List Char} {pair : String × String} {pairs : List (String × String)}
    (h : PairsForm body (pair :: pairs)) : ∃ c more, body = c :: more ∧ isBlank c = false := by
  cases h with
  | last hpair => exact hpair.head
  | more hpair hblanks hne hrest =>
    obtain ⟨c, more, rfl, hc⟩ := hpair.head
    exact ⟨c, _, by rw [List.append_assoc, List.cons_append], hc⟩

theorem PairsForm.exists_pairForm {body : List Char} {pairs : List (String × String)}
    (h : PairsForm body pairs) : ∀ pair ∈ pairs, ∃ written, PairForm written pair := by
  induction h with
  | none => exact fun _ hmem => absurd hmem List.not_mem_nil
  | last hpair => exact List.forall_mem_singleton.2 ⟨_, hpair⟩
  | more hpair hblanks hne hrest ih => exact List.forall_mem_cons.2 ⟨⟨_, hpair⟩, ih⟩

theorem keywordText_nil_iff {cs : List Char} : KeywordText cs [] ↔ Blanks cs := by
  constructor
  · rintro ⟨before, body, after, rfl, hbefore, hbody, hafter⟩
    cases hbody
    rw [List.append_nil]
    exact blanks_append.2 ⟨hbefore, hafter⟩
  · intro h
    exact ⟨cs, [], [], by simp, h, .none, fun _ hc => absurd hc List.not_mem_nil⟩

/-- The first pair of a text, and the text behind it. -/
theorem keywordText_cons_iff {cs : List Char} {pair : String × String}
    {pairs : List (String × String)} : KeywordText cs (pair :: pairs) ↔
      ∃ before written rest, cs = before ++ (written ++ rest) ∧ Blanks before ∧
        PairForm written pair ∧ atBreak rest = true ∧ KeywordText rest pairs := by
  constructor
  · rintro ⟨before, body, after, rfl, hbefore, hbody, hafter⟩
    cases hbody with
    | last hpair =>
      have hbreak : atBreak (after ++ []) = true := atBreak_of_blanks hafter (Or.inr rfl)
      rw [List.append_nil] at hbreak
      exact ⟨before, body, after, List.append_assoc .., hbefore, hpair, hbreak,
        keywordText_nil_iff.2 hafter⟩
    | @more written blanks rest _ _ _ hpair hblanks hne hrest =>
      refine ⟨before, written, blanks ++ rest ++ after, by simp, hbefore, hpair, ?_,
        blanks, rest, after, rfl, hblanks, hrest, hafter⟩
      rw [List.append_assoc]
      exact atBreak_of_blanks hblanks (Or.inl hne)
  · rintro ⟨before, written, rest, rfl, hbefore, hpair, hbreak, hrest⟩
    cases pairs with
    | nil =>
      exact ⟨before, written, rest, (List.append_assoc ..).symm, hbefore, .last hpair,
        keywordText_nil_iff.1 hrest⟩
    | cons next pairs =>
      obtain ⟨blanks, body, after, rfl, hblanks, hbody, hafter⟩ := hrest
      -- the next pair does not begin with a blank, so blanks stand before it
      have hne : blanks ≠ [] := by
        rintro rfl
        obtain ⟨c, more, rfl, hc⟩ := hbody.head
        exact absurd (hc.symm.trans hbreak) Bool.false_ne_true
      exact ⟨before, written ++ blanks ++ body, after, by simp, hbefore,
        .more hpair hblanks hne hbody, hafter⟩

/-! ## The reader -/

theorem isQuote_of_isBlank {c : Char} (h : isBlank c = true) : isQuote c = false := by
  rw [← Bool.not_eq_true]
  intro hquote
  exact absurd ((isBlank_of_isQuote hquote).symm.trans h) Bool.false_ne_true

theorem readValue_unclosed {quote : Char} (hquote : isQuote quote = true) {cs : List Char}
    (h : quote ∉ cs) : readValue (quote :: cs) = none := by
  have hdrop : cs.dropWhile (· != quote) = [] := by
    rw [List.dropWhile_eq_nil_iff]
    intro c hc
    rw [bne_iff_ne]
    rintro rfl
    exact h hc
  rw [readValue, if_pos hquote, hdrop]

theorem readValue_bare {cs : List Char} (h : ∀ c more, cs = c :: more → isQuote c = false) :
    readValue cs = some (cs.takeWhile fun c => !isBlank c, cs.dropWhile fun c => !isBlank c) := by
  cases cs with
  | nil => rfl
  | cons c cs => rw [readValue, h c cs rfl, if_neg Bool.false_ne_true]

/-- A value without blanks is followed by a blank or by nothing. -/
theorem atBreak_dropWhile (cs : List Char) :
    atBreak (cs.dropWhile fun c => !isBlank c) = true := by
  have hhead := List.head?_dropWhile_not (fun c => !isBlank c) cs
  cases hdrop : cs.dropWhile fun c => !isBlank c with
  | nil => rfl
  | cons c more =>
    rw [hdrop] at hhead
    simpa [atBreak] using hhead

/-- **A value is read exactly as the grammar has it**, up to a blank or the end. -/
theorem readValue_eq_some_iff {cs value rest : List Char} : readValue cs = some (value, rest) ↔
    ∃ written, cs = written ++ rest ∧ ValueForm written value ∧ atBreak rest = true := by
  constructor
  · intro h
    by_cases hquote : ∃ quote more, cs = quote :: more ∧ isQuote quote = true
    · obtain ⟨quote, more, rfl, hquote⟩ := hquote
      by_cases hmem : quote ∈ more
      · obtain ⟨left, right, rfl, hleft⟩ := List.eq_append_cons_of_mem hmem
        rw [← between_append, readValue_between hquote hleft] at h
        split at h
        case isTrue hbreak =>
          cases h
          exact ⟨_, (between_append ..).symm, .quoted hquote hleft, hbreak⟩
        case isFalse => cases h
      · rw [readValue_unclosed hquote hmem] at h
        cases h
    · have hfirst : ∀ c more, cs = c :: more → isQuote c = false := fun c more hcs =>
        Bool.eq_false_iff.2 fun hc => hquote ⟨c, more, hcs, hc⟩
      rw [readValue_bare hfirst] at h
      cases h
      refine ⟨_, List.takeWhile_append_dropWhile.symm, .bare ?_ ?_, atBreak_dropWhile cs⟩
      · intro c hc
        simpa using List.mem_takeWhile_imp hc
      · intro c more hvalue
        refine hfirst c (more ++ cs.dropWhile fun c => !isBlank c) ?_
        rw [← List.cons_append, ← hvalue, List.takeWhile_append_dropWhile]
  · rintro ⟨written, rfl, hform, hbreak⟩
    cases hform with
    | quoted hquote hvalue => rw [readValue_between hquote hvalue, if_pos hbreak]
    | bare hblank hfirst =>
      have hall : ∀ c ∈ value, (!isBlank c) = true := fun c hc => by rw [hblank c hc]; rfl
      rw [readValue_bare, List.takeWhile_append_of_pos hall, List.dropWhile_append_of_pos hall]
      · cases rest with
        | nil => simp
        | cons c more =>
          have hc : isBlank c = true := hbreak
          simp [hc]
      · intro c more hcs
        cases value with
        | nil =>
          obtain rfl : rest = c :: more := hcs
          exact isQuote_of_isBlank hbreak
        | cons d value =>
          obtain rfl : d = c := (List.cons.inj hcs).1
          exact hfirst d value rfl

/-- A pair with its key in lower case. -/
def withLowerKey (pair : String × String) : String × String :=
  (foldCase pair.1, pair.2)

theorem readPair_eq_some_iff {cs rest : List Char} {entry : String × String} :
    readPair cs = some (entry, rest) ↔ ∃ written pair, cs = written ++ rest ∧
      PairForm written pair ∧ entry = withLowerKey pair ∧ atBreak rest = true := by
  constructor
  · intro h
    rw [readPair.eq_def] at h
    split at h
    case h_1 => cases h
    case h_2 k ks behind htake hdrop =>
      obtain ⟨⟨value, after⟩, hvalue, hentry⟩ := Option.map_eq_some_iff.1 h
      cases hentry
      obtain ⟨written, rfl, hform, hbreak⟩ := readValue_eq_some_iff.1 hvalue
      have hkey : ∀ c ∈ k :: ks, isNameChar c = true := fun c hc =>
        List.mem_takeWhile_imp (htake ▸ hc)
      refine ⟨_, _, ?_, .mk (List.cons_ne_nil k ks) hkey hform, ?_, hbreak⟩
      · rw [← List.takeWhile_append_dropWhile (p := isNameChar) (l := cs), htake, hdrop,
          List.append_assoc]
        rfl
      · rw [withLowerKey, ofList_fold]
    case h_3 => cases h
  · rintro ⟨written, pair, rfl, hpair, rfl, hbreak⟩
    cases hpair with
    | mk hne hkey hvalue =>
      rw [List.append_assoc, List.cons_append, readPair_key hne hkey,
        readValue_eq_some_iff.2 ⟨_, rfl, hvalue, hbreak⟩, Option.map_some, withLowerKey,
        ofList_fold]

/-- **All pairs are read exactly as the grammar has them.**  The reader takes the blanks before a
    pair with that pair, so the text is taken apart from the left. -/
theorem readPairs_eq_some_iff {cs : List Char} {entries : List (String × String)} :
    readPairs cs = some entries ↔ ∃ pairs, KeywordText cs pairs ∧
      entries = pairs.map withLowerKey := by
  constructor
  · intro h
    induction cs using readPairs.induct generalizing entries with
    | case1 cs hskip =>
      rw [readPairs_eq, hskip] at h
      cases h
      exact ⟨[], keywordText_nil_iff.2 (trimStart_eq_nil_iff.1 hskip), rfl⟩
    | case2 cs d ds hskip hread =>
      rw [readPairs_eq, hskip] at h
      simp only [hread, Option.bind_none] at h
      cases h
    | case3 cs d ds hskip entry rest hread ih =>
      rw [readPairs_cons hskip hread] at h
      obtain ⟨others, hothers, rfl⟩ := Option.map_eq_some_iff.1 h
      obtain ⟨pairs, hrest, rfl⟩ := ih hothers
      obtain ⟨written, pair, hwritten, hpair, rfl, hbreak⟩ := readPair_eq_some_iff.1 hread
      obtain ⟨before, hbefore, hcs⟩ := exists_blanks cs
      rw [hskip, hwritten] at hcs
      exact ⟨pair :: pairs,
        keywordText_cons_iff.2 ⟨before, written, rest, hcs, hbefore, hpair, hbreak, hrest⟩, rfl⟩
  · rintro ⟨pairs, htext, rfl⟩
    induction pairs generalizing cs with
    | nil =>
      rw [readPairs_eq, trimStart_eq_nil_iff.2 (keywordText_nil_iff.1 htext)]
      rfl
    | cons pair pairs ih =>
      obtain ⟨before, written, rest, rfl, hbefore, hpair, hbreak, hrest⟩ :=
        keywordText_cons_iff.1 htext
      have hread := readPair_eq_some_iff.2 ⟨written, pair, rfl, hpair, rfl, hbreak⟩
      obtain ⟨c, more, rfl, hc⟩ := hpair.head
      rw [List.cons_append] at hread ⊢
      rw [readPairs_cons (trimStart_blanks hbefore hc _) hread, ih hrest]
      rfl

/-! ## The bindings -/

theorem get?_ofList_withLowerKey_iff {pairs : List (String × String)} {key value : String} :
    (Dict.ofList (pairs.map withLowerKey)).get? key = some value ↔
      ∃ before last after, pairs = before ++ last :: after ∧ foldCase last.1 = key ∧
        last.2 = value ∧ ∀ later ∈ after, foldCase later.1 ≠ key := by
  rw [Dict.get?_ofList_eq_some_iff]
  constructor
  · rintro ⟨front, behind, hpairs, hbehind⟩
    obtain ⟨before, others, rfl, -, hothers⟩ := List.map_eq_append_iff.1 hpairs
    obtain ⟨last, after, rfl, hlast, rfl⟩ := List.map_eq_cons_iff.1 hothers
    obtain ⟨hkey, hvalue⟩ := Prod.mk.inj hlast
    refine ⟨before, last, after, rfl, hkey, hvalue, fun later hlater => ?_⟩
    exact hbehind (withLowerKey later) (List.mem_map_of_mem hlater)
  · rintro ⟨before, last, after, rfl, rfl, rfl, hafter⟩
    refine ⟨before.map withLowerKey, after.map withLowerKey, ?_, ?_⟩
    · rw [List.map_append, List.map_cons, withLowerKey]
    · intro entry hentry
      obtain ⟨later, hlater, rfl⟩ := List.mem_map.1 hentry
      exact hafter later hlater

/-- A dictionary that binds each key to its last value is the one that the reader makes. -/
theorem bindsLast_iff {kwargs : Dict String} {pairs : List (String × String)} :
    BindsLast kwargs pairs ↔ kwargs = Dict.ofList (pairs.map withLowerKey) := by
  constructor
  · intro h
    refine Dict.ext_get? fun key => Option.ext fun value => ?_
    exact (h key value).trans get?_ofList_withLowerKey_iff.symm
  · rintro rfl key value
    exact get?_ofList_withLowerKey_iff

/-! ## The whole text -/

/-- What is left of a text behind its first pair: the text of the next pass. -/
def LeftBehind (rest cs : List Char) : Prop :=
  ∃ entry, readPair (trimStart cs) = some (entry, rest)

theorem wellFounded_leftBehind : WellFounded LeftBehind := by
  refine Subrelation.wf ?_ (measure List.length).wf
  rintro rest cs ⟨entry, hread⟩
  exact Nat.lt_of_lt_of_le (length_readPair_lt hread) (length_trimStart_le cs)

/-- **Keyword arguments are read exactly as their grammar has them.**  What the reader gives for a
    text are the bindings of its pairs, the last of a key winning; it gives nothing exactly if the
    text is none of the grammar; and it does not read on for ever, pair after pair. -/
theorem readKeywords_iff_keywordText (cs : List Char) :
    (∀ kwargs, readKeywords cs = some kwargs ↔
        ∃ pairs, KeywordText cs pairs ∧ BindsLast kwargs pairs) ∧
      (readKeywords cs = none ↔ ¬∃ pairs, KeywordText cs pairs) ∧ Acc LeftBehind cs := by
  have hsome (kwargs : Dict String) : readKeywords cs = some kwargs ↔
      ∃ pairs, KeywordText cs pairs ∧ BindsLast kwargs pairs := by
    simp only [readKeywords, Option.map_eq_some_iff, readPairs_eq_some_iff, bindsLast_iff]
    constructor
    · rintro ⟨_, ⟨pairs, htext, rfl⟩, rfl⟩
      exact ⟨pairs, htext, rfl⟩
    · rintro ⟨pairs, htext, rfl⟩
      exact ⟨_, ⟨pairs, htext, rfl⟩, rfl⟩
  refine ⟨hsome, ?_, wellFounded_leftBehind.apply cs⟩
  constructor
  · rintro hnone ⟨pairs, htext⟩
    have hread := (hsome _).2 ⟨pairs, htext, bindsLast_iff.2 rfl⟩
    rw [hnone] at hread
    cases hread
  · intro hnot
    rw [Option.eq_none_iff_forall_ne_some]
    intro kwargs hread
    obtain ⟨pairs, htext, -⟩ := (hsome kwargs).1 hread
    exact hnot ⟨pairs, htext⟩

/-- A value may be empty or hold a quote further on, and the second `k` wins; but nothing may
    follow a closing quote directly. -/
example : readKeywords " k= j=a\"b K='c d' ".toList =
    some ((Dict.empty.insert "j" "a\"b").insert "k" "c d") ∧
      readKeywords " k=\"a\"b".toList = none := by decide +kernel

end Markup
end BracketMark
