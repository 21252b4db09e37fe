import Mathlib.Data.List.Chain
import BracketMark.Proofs.Markup.Scan

/-!
# Values in quotes

How an opening tag with an argument is read: first its name, then what follows the name.

Where a value in quotes ends is decided in three places.  The search for the end of the span takes
the first quote of the kind that stands before a blank, before a closing bracket or at the end.  The
argument of `[name=value]` is all that the search left, and only its outermost quotes are taken off,
so it ends where the search said.  But a keyword argument ends at the first quote of the kind, and
is malformed if the text goes on there.  So a quote that `StaysOpen` may hold quotes of its own kind
as an argument and not as a keyword argument (`scan_quoted`); every other character is safe in both.
-/

namespace BracketMark
namespace Markup

open Text

/-! ## One character of a span -/

theorem isQuote_iff {c : Char} : isQuote c = true ↔ c = '"' ∨ c = '\'' := by
  rw [isQuote, Bool.or_eq_true, beq_iff_eq, beq_iff_eq]

/-- Outside quotes: a character that is no bracket and opens no quote. -/
theorem spanEndFrom_char {afterEquals : Bool} {c : Char} (hopen : c ≠ '[') (hclose : c ≠ ']')
    (hquote : (afterEquals && isQuote c) = false) (size : Nat) (rest : List Char) :
    spanEndFrom (.plain afterEquals) size (c :: rest) =
      spanEndFrom (.plain (if isBlank c then afterEquals else c == '=')) (size + 1) rest := by
  rw [spanEndFrom, bracketEnd, if_neg hclose, if_neg hopen]
  simp only [hquote, Bool.false_eq_true, if_false]

/-- A quote that opens. -/
theorem spanEndFrom_quote {quote : Char} (hquote : isQuote quote = true) (size : Nat)
    (rest : List Char) : spanEndFrom (.plain true) size (quote :: rest) =
      spanEndFrom (.quoted quote .unterminated) (size + 1) rest := by
  have hbracket : bracketEnd size quote = .unterminated := by
    rcases isQuote_iff.1 hquote with rfl | rfl
    · rfl
    · rfl
  simp only [spanEndFrom, hbracket, hquote, Bool.and_self, if_true]

/-! ## Names -/

theorem ne_of_isNameChar {c d : Char} (h : isNameChar c = true) (hd : isNameChar d = false) :
    c ≠ d := by
  rintro rfl
  rw [h] at hd
  cases hd

/-- Letters and digits by their code points. -/
theorem toNat_of_isAlphanum {c : Char} (h : c.isAlphanum = true) :
    (65 ≤ c.toNat ∧ c.toNat ≤ 90) ∨ (97 ≤ c.toNat ∧ c.toNat ≤ 122) ∨
      (48 ≤ c.toNat ∧ c.toNat ≤ 57) := by
  rcases Bool.or_eq_true_iff.1 h with hletter | hdigit
  · rcases Bool.or_eq_true_iff.1 hletter with hupper | hlower
    · exact Or.inl (of_decide_eq_true hupper)
    · obtain ⟨hge, hle⟩ := Bool.and_eq_true_iff.1 hlower
      exact Or.inr (Or.inl ⟨of_decide_eq_true hge, of_decide_eq_true hle⟩)
  · obtain ⟨hge, hle⟩ := Bool.and_eq_true_iff.1 hdigit
    exact Or.inr (Or.inr ⟨of_decide_eq_true hge, of_decide_eq_true hle⟩)

theorem isBlank_of_isNameChar {c : Char} (h : isNameChar c = true) : isBlank c = false := by
  rw [isNameChar, Bool.or_eq_true, Bool.or_eq_true, beq_iff_eq, beq_iff_eq] at h
  rcases h with (h | rfl) | rfl
  · have hbounds := toNat_of_isAlphanum h
    simp only [isBlank, Bool.or_eq_false_iff, Bool.and_eq_false_iff, decide_eq_false_iff_not,
      beq_eq_false_iff_ne]
    omega
  · rfl
  · rfl

theorem isQuote_of_isNameChar {c : Char} (h : isNameChar c = true) : isQuote c = false := by
  rw [← Bool.not_eq_true, isQuote_iff]
  exact not_or.2 ⟨ne_of_isNameChar h (by decide), ne_of_isNameChar h (by decide)⟩

theorem isNameChar_of_isName {name : List Char} (h : isName name = true) :
    ∀ c ∈ name, isNameChar c = true := by
  cases name with
  | nil => cases h
  | cons c cs =>
    rw [isName, Bool.and_eq_true, List.all_eq_true] at h
    exact List.forall_mem_cons.2 ⟨isNameChar_of_isNameStart h.1, h.2⟩

theorem ne_nil_of_isName {name : List Char} (h : isName name = true) : name ≠ [] := by
  rintro rfl
  cases h

/-- A text that goes on with no character of a name. -/
def EndsName (rest : List Char) : Prop :=
  ∀ c more, rest = c :: more → isNameChar c = false

theorem endsName_nil : EndsName [] := fun _ _ h => by cases h

theorem endsName_cons {c : Char} {rest : List Char} (h : isNameChar c = false) :
    EndsName (c :: rest) := fun _ _ hcons => by cases hcons; exact h

theorem takeWhile_name {name rest : List Char} (h : ∀ c ∈ name, isNameChar c = true)
    (hrest : EndsName rest) : (name ++ rest).takeWhile isNameChar = name := by
  rw [List.takeWhile_append_of_pos h]
  cases rest with
  | nil => rw [List.takeWhile_nil, List.append_nil]
  | cons c more =>
    rw [List.takeWhile_cons, hrest c more rfl, if_neg Bool.false_ne_true, List.append_nil]

theorem dropWhile_name {name rest : List Char} (h : ∀ c ∈ name, isNameChar c = true)
    (hrest : EndsName rest) : (name ++ rest).dropWhile isNameChar = rest := by
  rw [List.dropWhile_append_of_pos h]
  cases rest with
  | nil => rfl
  | cons c more => rw [List.dropWhile_cons, hrest c more rfl, if_neg Bool.false_ne_true]

/-- A name is passed over. -/
theorem spanEndFrom_name {name : List Char} (h : ∀ c ∈ name, isNameChar c = true) (size : Nat)
    (rest : List Char) :
    spanEndFrom (.plain false) size (name ++ rest) =
      spanEndFrom (.plain false) (size + name.length) rest := by
  induction name generalizing size with
  | nil => rfl
  | cons c name ih =>
    have hc := h c List.mem_cons_self
    have hclose : c ≠ ']' := ne_of_isNameChar hc (by decide)
    have hopen : c ≠ '[' := ne_of_isNameChar hc (by decide)
    have hequals : (c == '=') = false := beq_eq_false_iff_ne.2 (ne_of_isNameChar hc (by decide))
    rw [List.cons_append, spanEndFrom_char hopen hclose rfl, isBlank_of_isNameChar hc, hequals,
      if_neg Bool.false_ne_true, ih fun d hd => h d (List.mem_cons_of_mem c hd), List.length_cons]
    congr 1
    omega

/-! ## Quotes -/

/-- A quote is neither a blank nor a bracket, so none closes before another. -/
theorem closesQuote_of_isQuote {c : Char} (h : isQuote c = true) (rest : List Char) :
    closesQuote (c :: rest) = false := by
  rcases isQuote_iff.1 h with rfl | rfl
  · rfl
  · rfl

theorem isBlank_of_isQuote {c : Char} (h : isQuote c = true) : isBlank c = false := by
  rcases isQuote_iff.1 h with rfl | rfl
  · rfl
  · rfl

/-- A value in which no quote of this kind stands right before a blank or a closing bracket. -/
def StaysOpen (quote : Char) (value : List Char) : Prop :=
  value.IsChain fun c next => c = quote → isBlank next = false ∧ next ≠ ']'

instance (quote : Char) (value : List Char) : Decidable (StaysOpen quote value) :=
  inferInstanceAs (Decidable (value.IsChain _))

theorem staysOpen_of_notMem {quote : Char} {value : List Char} (h : quote ∉ value) :
    StaysOpen quote value := by
  induction value with
  | nil => exact .nil
  | cons c value ih =>
    have hvalue := ih fun hmem => h (List.mem_cons_of_mem c hmem)
    refine hvalue.cons fun next _ hquote => ?_
    exact absurd List.mem_cons_self (hquote ▸ h)

/-- A value between two quotes of a kind. -/
def between (quote : Char) (value : List Char) : List Char :=
  quote :: (value ++ [quote])

theorem between_append (quote : Char) (value rest : List Char) :
    between quote value ++ rest = quote :: (value ++ quote :: rest) := by
  simp [between]

section

variable {quote : Char} (hquote : isQuote quote = true)

include hquote

/-- A quote inside the value does not close, whatever follows the value. -/
theorem StaysOpen.not_closes {c : Char} {value : List Char} (h : StaysOpen quote (c :: value))
    (rest : List Char) : (c == quote && closesQuote (value ++ quote :: rest)) = false := by
  rw [Bool.and_eq_false_imp, beq_iff_eq]
  rintro rfl
  cases value with
  | nil => exact closesQuote_of_isQuote hquote rest
  | cons d value =>
    obtain ⟨hblank, hbracket⟩ := (List.isChain_cons_cons.1 h).1 rfl
    show (d == ']' || isBlank d) = false
    rw [hblank, beq_eq_false_iff_ne.2 hbracket, Bool.false_or]

/-- **Inside a quote only a quote that closes ends anything**; a bracket that it hides may become
    the fallback, which is forgotten once the quote is closed. -/
theorem spanEndFrom_value {value : List Char} (h : StaysOpen quote value) (fallback : SpanEnd)
    (size : Nat) {rest : List Char} (hrest : closesQuote rest = true) :
    spanEndFrom (.quoted quote fallback) size (value ++ quote :: rest) =
      spanEndFrom (.plain false) (size + value.length + 1) rest := by
  induction value generalizing fallback size with
  | nil => rw [List.nil_append, spanEndFrom, hrest, beq_self_eq_true]; rfl
  | cons c value ih =>
    rw [List.cons_append, spanEndFrom, h.not_closes hquote rest, if_neg Bool.false_ne_true,
      ih h.tail, List.length_cons]
    congr 1
    omega

/-- An equals sign and a value in quotes are passed over. -/
theorem spanEndFrom_equals {value : List Char} (h : StaysOpen quote value) (size : Nat)
    {rest : List Char} (hrest : closesQuote rest = true) :
    spanEndFrom (.plain false) size ('=' :: between quote value ++ rest) =
      spanEndFrom (.plain false) (size + ('=' :: between quote value).length) rest := by
  rw [List.cons_append, between_append]
  show spanEndFrom (.plain true) (size + 1) (quote :: (value ++ quote :: rest)) = _
  rw [spanEndFrom_quote hquote, spanEndFrom_value hquote h _ _ hrest]
  congr 1
  simp only [between, List.length_cons, List.length_append, List.length_nil]
  omega

theorem unquote_between (value : List Char) : unquote (between quote value) = value := by
  obtain ⟨d, ds, hcons⟩ : ∃ d ds, value ++ [quote] = d :: ds :=
    List.exists_cons_of_ne_nil (by simp)
  rw [between, hcons]
  show (if isQuote quote && (d :: ds).getLast? == some quote then (d :: ds).dropLast
    else quote :: d :: ds) = _
  rw [← hcons, if_pos (by simp [hquote]), List.dropLast_concat]

end

/-- A text that neither begins nor ends with a blank is its own trimmed form. -/
theorem trim_eq_self {c d : Char} {front back : List Char} {cs : List Char}
    (hfront : cs = c :: back) (hback : cs = front ++ [d]) (hc : isBlank c = false)
    (hd : isBlank d = false) : trim cs = cs := by
  have hstart : trimStart cs = cs := by
    rw [hfront, trimStart, List.dropWhile_cons, hc, if_neg Bool.false_ne_true]
  rw [trim, hstart, hback, trimEnd, List.reverse_append, List.reverse_singleton,
    List.singleton_append, List.dropWhile_cons, hd, if_neg Bool.false_ne_true,
    List.reverse_cons, List.reverse_reverse]

theorem trim_between {quote : Char} (hquote : isQuote quote = true) (value : List Char) :
    trim (between quote value) = between quote value := by
  have hback : between quote value = (quote :: value) ++ [quote] := rfl
  exact trim_eq_self rfl hback (isBlank_of_isQuote hquote) (isBlank_of_isQuote hquote)

/-! ## Keyword arguments -/

/-- The value in quotes at the front of a text ends at the first quote of the kind. -/
theorem readValue_between {quote : Char} (hquote : isQuote quote = true) {value : List Char}
    (h : quote ∉ value) (rest : List Char) : readValue (between quote value ++ rest) =
      if atBreak rest then some (value, rest) else none := by
  have hall : ∀ c ∈ value, (c != quote) = true := by
    intro c hc
    rw [bne_iff_ne]
    rintro rfl
    exact h hc
  have htake : (value ++ quote :: rest).takeWhile (· != quote) = value := by
    rw [List.takeWhile_append_of_pos hall]
    simp
  have hdrop : (value ++ quote :: rest).dropWhile (· != quote) = quote :: rest := by
    rw [List.dropWhile_append_of_pos hall]
    simp
  rw [between_append, readValue, if_pos hquote, hdrop, htake]

/-- A value that holds a quote of its own kind is malformed. -/
theorem readValue_between_of_mem {quote : Char} (hquote : isQuote quote = true)
    {value : List Char} (h : StaysOpen quote value) (hmem : quote ∈ value) (rest : List Char) :
    readValue (between quote value ++ rest) = none := by
  obtain ⟨left, right, rfl, hleft⟩ := List.eq_append_cons_of_mem hmem
  have hsplit : between quote (left ++ quote :: right) ++ rest =
      between quote left ++ (right ++ quote :: rest) := by
    simp [between]
  -- the value read is `left`, and what follows it is no blank
  have hbreak : atBreak (right ++ quote :: rest) = false := by
    have hright : StaysOpen quote (quote :: right) := h.right_of_append
    cases right with
    | nil => exact isBlank_of_isQuote hquote
    | cons c right => exact ((List.isChain_cons_cons.1 hright).1 rfl).1
  rw [hsplit, readValue_between hquote hleft, hbreak, if_neg Bool.false_ne_true]

theorem readPair_key {key : List Char} (hne : key ≠ []) (hkey : ∀ c ∈ key, isNameChar c = true)
    (rest : List Char) : readPair (key ++ '=' :: rest) =
      (readValue rest).map fun p => ((String.ofList (fold key), String.ofList p.1), p.2) := by
  have hends : EndsName ('=' :: rest) := endsName_cons (by decide)
  obtain ⟨k, ks, rfl⟩ := List.exists_cons_of_ne_nil hne
  rw [readPair, takeWhile_name hkey hends, dropWhile_name hkey hends]
  rfl

theorem readPairs_cons {cs after rest : List Char} {c : Char} {pair : String × String}
    (hskip : trimStart cs = c :: after) (hread : readPair (c :: after) = some (pair, rest)) :
    readPairs cs = (readPairs rest).map (pair :: ·) := by
  rw [readPairs_eq, hskip]
  simp only [hread, Option.bind_some]

theorem trimStart_blanks {blanks : List Char} (h : ∀ c ∈ blanks, isBlank c = true) {c : Char}
    (hc : isBlank c = false) (rest : List Char) : trimStart (blanks ++ c :: rest) = c :: rest := by
  rw [trimStart, List.dropWhile_append_of_pos h, List.dropWhile_cons, hc,
    if_neg Bool.false_ne_true]

/-- The first pair of a text, behind blanks. -/
theorem readPairs_key {blanks key : List Char} (hblanks : ∀ c ∈ blanks, isBlank c = true)
    (hne : key ≠ []) (hkey : ∀ c ∈ key, isNameChar c = true) (rest : List Char) :
    readPairs (blanks ++ (key ++ '=' :: rest)) =
      (readValue rest).bind fun p =>
        (readPairs p.2).map ((String.ofList (fold key), String.ofList p.1) :: ·) := by
  have hread := readPair_key hne hkey rest
  obtain ⟨k, ks, rfl⟩ := List.exists_cons_of_ne_nil hne
  have hk : isBlank k = false := isBlank_of_isNameChar (hkey k List.mem_cons_self)
  rw [List.cons_append] at hread ⊢
  rw [readPairs_eq, trimStart_blanks hblanks hk]
  simp only [hread, Option.bind_map]
  rfl

/-! ## Opening tags -/

section

variable {name : List Char} (hname : isName name = true)

include hname

/-- The content of `[name]`. -/
theorem readOpening_name :
    readOpening name = some ⟨String.ofList (fold name), none, .empty⟩ := by
  have hchars := isNameChar_of_isName hname
  have htake := takeWhile_name hchars endsName_nil
  have hdrop := dropWhile_name hchars endsName_nil
  rw [List.append_nil] at htake hdrop
  rw [readOpening, htake, hdrop, if_pos hname]

/-- The content of `[name=value]`. -/
theorem readOpening_argument (rest : List Char) : readOpening (name ++ '=' :: rest) =
    some ⟨String.ofList (fold name), some (String.ofList (unquote (trim rest))), .empty⟩ := by
  have hchars := isNameChar_of_isName hname
  have hends : EndsName ('=' :: rest) := endsName_cons (by decide)
  rw [readOpening, takeWhile_name hchars hends, dropWhile_name hchars hends, if_pos hname]
  rfl

/-- The content of `[name key=value …]`. -/
theorem readOpening_keywords (rest : List Char) : readOpening (name ++ ' ' :: rest) =
    (readKeywords (' ' :: rest)).map fun kwargs => ⟨String.ofList (fold name), none, kwargs⟩ := by
  have hchars := isNameChar_of_isName hname
  have hends : EndsName (' ' :: rest) := endsName_cons (by decide)
  rw [readOpening, takeWhile_name hchars hends, dropWhile_name hchars hends, if_pos hname]
  rfl

/-- A span that begins with a name is no closing tag. -/
theorem readSpan_name (rest : List Char) : readSpan (name ++ rest) =
    match readOpening (name ++ rest) with
    | some tag => .opening (String.ofList ('[' :: (name ++ rest) ++ [']'])) tag
    | none => .malformed (String.ofList ('[' :: (name ++ rest) ++ [']'])) := by
  refine readSpan_of_head?_ne fun hslash => ?_
  cases name with
  | nil => cases hname
  | cons c cs =>
    obtain rfl : c = '/' := Option.some.inj hslash
    exact absurd (isNameChar_of_isName hname '/' List.mem_cons_self) (by decide)

end

/-! ## Both forms of an argument -/

/-- An opening tag `[name=value]` with its value in quotes. -/
def argumentForm (name : List Char) (quote : Char) (value : List Char) : List Char :=
  '[' :: (name ++ '=' :: between quote value ++ [']'])

/-- An opening tag `[name key=value]` with its value in quotes. -/
def keywordForm (name key : List Char) (quote : Char) (value : List Char) : List Char :=
  '[' :: (name ++ ' ' :: (key ++ '=' :: between quote value) ++ [']'])

section

variable {name key value : List Char} {quote : Char}

theorem spanEnd_argument (hname : isName name = true) (hquote : isQuote quote = true)
    (hvalue : StaysOpen quote value) :
    spanEnd (name ++ '=' :: between quote value ++ [']']) =
      .closed (name ++ '=' :: between quote value).length := by
  rw [spanEnd, List.append_assoc, spanEndFrom_name (isNameChar_of_isName hname),
    spanEndFrom_equals hquote hvalue _ rfl, List.length_append, Nat.zero_add]
  rfl

theorem spanEnd_keyword (hname : isName name = true) (hkey : ∀ c ∈ key, isNameChar c = true)
    (hquote : isQuote quote = true) (hvalue : StaysOpen quote value) :
    spanEnd (name ++ ' ' :: (key ++ '=' :: between quote value) ++ [']']) =
      .closed (name ++ ' ' :: (key ++ '=' :: between quote value)).length := by
  rw [spanEnd, List.append_assoc, spanEndFrom_name (isNameChar_of_isName hname)]
  show spanEndFrom (.plain false) (0 + name.length + 1)
    (key ++ '=' :: between quote value ++ [']']) = _
  rw [List.append_assoc, spanEndFrom_name hkey, spanEndFrom_equals hquote hvalue _ rfl]
  show SpanEnd.closed _ = _
  congr 1
  simp only [List.length_append, List.length_cons]
  omega

/-- A single keyword argument is read by its value. -/
theorem readKeywords_key (hne : key ≠ []) (hkey : ∀ c ∈ key, isNameChar c = true)
    (written : List Char) : readKeywords (' ' :: (key ++ '=' :: written)) =
      (readValue written).bind fun p => (readPairs p.2).map fun pairs =>
        Dict.ofList ((String.ofList (fold key), String.ofList p.1) :: pairs) := by
  have hblank : ∀ c ∈ [' '], isBlank c = true := List.forall_mem_singleton.2 rfl
  have hpairs := readPairs_key hblank hne hkey written
  rw [List.singleton_append] at hpairs
  rw [readKeywords, hpairs, Option.map_bind]
  congr 1
  funext p
  exact Option.map_map ..

/-- What a single keyword argument says, if its value is all that is written. -/
theorem readKeywords_pair (hne : key ≠ []) (hkey : ∀ c ∈ key, isNameChar c = true)
    {written : List Char} (h : readValue written = some (value, [])) :
    readKeywords (' ' :: (key ++ '=' :: written)) =
      some (Dict.empty.insert (String.ofList (fold key)) (String.ofList value)) := by
  rw [readKeywords_key hne hkey, h, Option.bind_some, readPairs_eq]
  rfl

/-- What a single keyword argument says, if its value does not end too early. -/
theorem readKeywords_keyword (hne : key ≠ []) (hkey : ∀ c ∈ key, isNameChar c = true)
    (hquote : isQuote quote = true) (hvalue : StaysOpen quote value) :
    readKeywords (' ' :: (key ++ '=' :: between quote value)) =
      if quote ∈ value then none
      else some (Dict.empty.insert (String.ofList (fold key)) (String.ofList value)) := by
  split
  case isTrue hmem =>
    have hread := readValue_between_of_mem hquote hvalue hmem []
    rw [List.append_nil] at hread
    rw [readKeywords_key hne hkey, hread]
    rfl
  case isFalse hmem =>
    have hread := readValue_between hquote hmem []
    rw [List.append_nil] at hread
    exact readKeywords_pair hne hkey hread

/-- **A value in quotes, in both forms.**  A value in which no quote of its kind stands before a
    blank or a closing bracket is read back from `[name=value]`.  It is read back from
    `[name key=value]` exactly if it holds no quote of its kind at all; if it holds one, the span is
    no tag. -/
theorem scan_quoted (hname : isName name = true)
    (hkey : key ≠ [] ∧ ∀ c ∈ key, isNameChar c = true) (hquote : isQuote quote = true)
    (hvalue : StaysOpen quote value) :
    let argument := argumentForm name quote value
    let keyword := keywordForm name key quote value
    scan argument = [.opening (String.ofList argument)
        ⟨String.ofList (fold name), some (String.ofList value), .empty⟩] ∧
      scan keyword = [if quote ∈ value then .malformed (String.ofList keyword)
        else .opening (String.ofList keyword) ⟨String.ofList (fold name), none,
          Dict.empty.insert (String.ofList (fold key)) (String.ofList value)⟩] := by
  intro argument keyword
  constructor
  · have hspan := scan_span (spanEnd_argument hname hquote hvalue)
    have hopening := readOpening_argument hname (between quote value)
    rw [trim_between hquote, unquote_between hquote] at hopening
    rw [readSpan_name hname, hopening, scan] at hspan
    exact hspan
  · have hspan := scan_span (spanEnd_keyword hname hkey.2 hquote hvalue)
    have hopening := readOpening_keywords hname (key ++ '=' :: between quote value)
    rw [readKeywords_keyword hkey.1 hkey.2 hquote hvalue] at hopening
    rw [readSpan_name hname, hopening, scan] at hspan
    refine hspan.trans ?_
    by_cases hmem : quote ∈ value
    · rw [if_pos hmem, if_pos hmem]
      rfl
    · rw [if_neg hmem, if_neg hmem]
      rfl

end

/-- Brackets, blanks and the other kind of quote are safe in both forms. -/
theorem scan_quoted_brackets :
    scan "[Quote=\"it's [b] ]\"]".toList =
        [.opening "[Quote=\"it's [b] ]\"]" ⟨"quote", some "it's [b] ]", .empty⟩] ∧
      scan "[Quote BY-1=\"it's [b] ]\"]".toList =
        [.opening "[Quote BY-1=\"it's [b] ]\"]"
          ⟨"quote", none, Dict.empty.insert "by-1" "it's [b] ]"⟩] := by
  have hvalue : StaysOpen '"' "it's [b] ]".toList := by decide
  have hkey : "BY-1".toList ≠ [] ∧ ∀ c ∈ "BY-1".toList, isNameChar c = true :=
    ⟨by decide, List.all_eq_true.1 rfl⟩
  exact scan_quoted (show isName "Quote".toList = true from rfl) hkey rfl hvalue

/-- A quote of the same kind is not: the keyword argument ends there, and the text goes on. -/
theorem not_scan_quoted_innerQuote :
    ¬∀ (name key : List Char) (quote : Char) (value : List Char), isName name = true →
      key ≠ [] → (∀ c ∈ key, isNameChar c = true) → isQuote quote = true →
      StaysOpen quote value →
      scan (argumentForm name quote value) =
          [.opening (String.ofList (argumentForm name quote value))
            ⟨String.ofList (fold name), some (String.ofList value), .empty⟩] ∧
        scan (keywordForm name key quote value) =
          [.opening (String.ofList (keywordForm name key quote value))
            ⟨String.ofList (fold name), none,
              Dict.empty.insert (String.ofList (fold key)) (String.ofList value)⟩] := by
  intro h
  have hread : scan (keywordForm "b".toList "k".toList '"' "a\"b".toList) =
      [.malformed "[b k=\"a\"b\"]"] := by decide +kernel
  have hsame := (h "b".toList "k".toList '"' "a\"b".toList rfl (by decide)
    (List.all_eq_true.1 rfl) rfl (by decide)).2
  rw [hread] at hsame
  cases hsame

end Markup
end BracketMark
