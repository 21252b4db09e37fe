import Mathlib
import BracketMark.Markup.Node
import BracketMark.Proofs.Markup.Quoted

/-!
# Printing a forest

A forest as plain markup: a literal as its text, a tag as its opening, its children and its
closing, with every value in double quotes.  Not every forest can be printed so that it reads
back; `Printable` says which can, and the rest of the module reads a printed opening and a
printed closing back as one token each (`scan_printOpening`, `scan_printClosing`).
-/

namespace BracketMark
namespace Markup

open Text

/-! ## The printer -/

/-- A value between double quotes. -/
def inQuotes (value : String) : List Char :=
  '"' :: (value.toList ++ ['"'])

/-- A keyword argument, with the blank before it. -/
def printPair (pair : String × String) : List Char :=
  ' ' :: (pair.1.toList ++ '=' :: inQuotes pair.2)

/-- What an opening tag says after its name. -/
def printArguments (opening : Opening) : List Char :=
  match opening.arg with
  | some arg => '=' :: inQuotes arg
  | none => opening.kwargs.toList.flatMap printPair

def printOpening (opening : Opening) : List Char :=
  '[' :: (opening.name.toList ++ printArguments opening ++ [']'])

def printClosing (name : String) : List Char :=
  '[' :: '/' :: (name.toList ++ [']'])

mutual

def Node.print : Node → List Char
  | .literal text => text.toList
  | .tagged opening children =>
    printOpening opening ++ printAll children ++ printClosing opening.name

def printAll : List Node → List Char
  | [] => []
  | node :: nodes => node.print ++ printAll nodes

end

def Forest.print (forest : Forest) : String :=
  String.ofList (printAll forest)

/-! ## What can be printed -/

/-- A lower-case letter, a digit, an underscore or a hyphen. -/
def isKeyChar (c : Char) : Bool :=
  ('a' ≤ c && c ≤ 'z') || ('0' ≤ c && c ≤ '9') || c == '_' || c == '-'

/-- A lower-case letter or an underscore. -/
def isKeyStart (c : Char) : Bool :=
  ('a' ≤ c && c ≤ 'z') || c == '_'

/-- A name in lower case. -/
def isPlainName : List Char → Bool
  | [] => false
  | c :: cs => isKeyStart c && cs.all isKeyChar

/-- An opening tag that can be printed. -/
structure Opening.Printable (opening : Opening) : Prop where
  name : isPlainName opening.name.toList = true
  one_kind : opening.arg = none ∨ opening.kwargs = .empty
  arg : ∀ arg, opening.arg = some arg → '"' ∉ arg.toList
  key : ∀ p ∈ opening.kwargs.toList, p.1.toList ≠ [] ∧ ∀ c ∈ p.1.toList, isKeyChar c = true
  value : ∀ p ∈ opening.kwargs.toList, '"' ∉ p.2.toList

/-- A forest that can be printed: its literals are not empty, hold no opening bracket and do
    not follow each other. -/
inductive Printable : Forest → Prop
  | nil : Printable []
  | literal {text : String} {rest : Forest} (hne : text ≠ "") (htext : '[' ∉ text.toList)
      (hnext : ∀ more nodes, rest ≠ .literal more :: nodes) (hrest : Printable rest) :
      Printable (.literal text :: rest)
  | tagged {opening : Opening} {children rest : Forest} (hopening : opening.Printable)
      (hchildren : Printable children) (hrest : Printable rest) :
      Printable (.tagged opening children :: rest)

mutual

/-- How deep tags are nested in a node. -/
def Node.depth : Node → Nat
  | .literal _ => 0
  | .tagged _ children => depthAll children + 1

/-- How deep tags are nested in a forest. -/
def depthAll : List Node → Nat
  | [] => 0
  | node :: nodes => max node.depth (depthAll nodes)

end

/-! ## Characters of names -/

theorem isKeyChar_of_isKeyStart {c : Char} (h : isKeyStart c = true) : isKeyChar c = true := by
  simp only [isKeyStart, isKeyChar, Bool.or_eq_true] at h ⊢
  rcases h with h | h
  · exact Or.inl (Or.inl (Or.inl h))
  · exact Or.inl (Or.inr h)

/-- A capital letter is no character of a name in lower case. -/
theorem toLower_of_isKeyChar {c : Char} (h : isKeyChar c = true) : c.toLower = c := by
  rcases toLower_eq_or_capital c with hc | ⟨n, rfl⟩
  · exact hc
  · exact absurd h (by revert n; decide)

theorem isNameChar_of_isKeyChar {c : Char} (h : isKeyChar c = true) : isNameChar c = true := by
  simp only [isKeyChar, Bool.or_eq_true, Bool.and_eq_true, decide_eq_true_eq] at h
  simp only [isNameChar, Char.isAlphanum, Char.isAlpha, Char.isLower, Char.isDigit,
    Bool.or_eq_true, Bool.and_eq_true, decide_eq_true_eq]
  rcases h with ((h | h) | h) | h
  · exact Or.inl (Or.inl (Or.inl (Or.inr h)))
  · exact Or.inl (Or.inl (Or.inr h))
  · exact Or.inl (Or.inr h)
  · exact Or.inr h

theorem isNameStart_of_isKeyStart {c : Char} (h : isKeyStart c = true) : isNameStart c = true := by
  simp only [isKeyStart, Bool.or_eq_true, Bool.and_eq_true, decide_eq_true_eq] at h
  simp only [isNameStart, Char.isAlpha, Char.isLower, Bool.or_eq_true, Bool.and_eq_true,
    decide_eq_true_eq]
  rcases h with h | h
  · exact Or.inl (Or.inr h)
  · exact Or.inr h

theorem fold_of_isKeyChar {cs : List Char} (h : ∀ c ∈ cs, isKeyChar c = true) : fold cs = cs := by
  unfold fold
  rw [List.map_congr_left fun c hc => toLower_of_isKeyChar (h c hc), List.map_id']

theorem isKeyChar_of_isPlainName {cs : List Char} (h : isPlainName cs = true) :
    ∀ c ∈ cs, isKeyChar c = true := by
  cases cs with
  | nil => cases h
  | cons c cs =>
    rw [isPlainName, Bool.and_eq_true, List.all_eq_true] at h
    intro d hd
    rcases List.mem_cons.1 hd with rfl | hd
    · exact isKeyChar_of_isKeyStart h.1
    · exact h.2 d hd

theorem isNameChar_of_isPlainName {cs : List Char} (h : isPlainName cs = true) :
    ∀ c ∈ cs, isNameChar c = true := fun c hc =>
  isNameChar_of_isKeyChar (isKeyChar_of_isPlainName h c hc)

theorem isName_of_isPlainName {cs : List Char} (h : isPlainName cs = true) :
    isName cs = true := by
  cases cs with
  | nil => cases h
  | cons c cs =>
    rw [isPlainName, Bool.and_eq_true, List.all_eq_true] at h
    rw [isName, Bool.and_eq_true, List.all_eq_true]
    exact ⟨isNameStart_of_isKeyStart h.1, fun d hd => isNameChar_of_isKeyChar (h.2 d hd)⟩

theorem ofList_fold_of_isPlainName {name : String} (h : isPlainName name.toList = true) :
    String.ofList (fold name.toList) = name := by
  rw [fold_of_isKeyChar (isKeyChar_of_isPlainName h), String.ofList_toList]

/-! ## The end of a printed span -/

theorem inQuotes_eq (value : String) : inQuotes value = between '"' value.toList := rfl

/-- A quote closes before the rest of printed keyword arguments. -/
theorem closesQuote_printPairs (pairs : List (String × String)) (rest : List Char) :
    closesQuote (pairs.flatMap printPair ++ ']' :: rest) = true := by
  cases pairs with
  | nil => rfl
  | cons p pairs => rfl

theorem spanEndFrom_printPairs {pairs : List (String × String)}
    (hkey : ∀ p ∈ pairs, ∀ c ∈ p.1.toList, isKeyChar c = true)
    (hvalue : ∀ p ∈ pairs, '"' ∉ p.2.toList) (size : Nat) (rest : List Char) :
    spanEndFrom (.plain false) size (pairs.flatMap printPair ++ ']' :: rest) =
      .closed (size + (pairs.flatMap printPair).length) := by
  induction pairs generalizing size with
  | nil => rfl
  | cons p pairs ih =>
    have hname : ∀ c ∈ p.1.toList, isNameChar c = true := fun c hc =>
      isNameChar_of_isKeyChar (hkey p List.mem_cons_self c hc)
    have hquote := spanEndFrom_equals rfl (staysOpen_of_notMem (hvalue p List.mem_cons_self))
      (size + 1 + p.1.toList.length) (closesQuote_printPairs pairs rest)
    have hrest := ih (fun q hq => hkey q (List.mem_cons_of_mem p hq))
      (fun q hq => hvalue q (List.mem_cons_of_mem p hq))
      (size + 1 + p.1.toList.length + ('=' :: inQuotes p.2).length)
    rw [List.flatMap_cons, printPair]
    simp only [← inQuotes_eq, List.cons_append, List.append_assoc] at hquote ⊢
    show spanEndFrom (.plain false) (size + 1) _ = _
    rw [spanEndFrom_name hname, hquote, hrest]
    congr 1
    simp only [List.length_cons, List.length_append]
    omega

theorem spanEndFrom_printArguments {opening : Opening} (h : opening.Printable) (size : Nat)
    (rest : List Char) :
    spanEndFrom (.plain false) size (printArguments opening ++ ']' :: rest) =
      .closed (size + (printArguments opening).length) := by
  unfold printArguments
  split
  case h_1 arg harg =>
    exact spanEndFrom_equals rfl (staysOpen_of_notMem (h.arg arg harg)) size rfl
  case h_2 => exact spanEndFrom_printPairs (fun p hp => (h.key p hp).2) h.value size rest

theorem spanEnd_printOpening {opening : Opening} (h : opening.Printable) (rest : List Char) :
    spanEnd (opening.name.toList ++ printArguments opening ++ ']' :: rest) =
      .closed (opening.name.toList ++ printArguments opening).length := by
  have hname := isNameChar_of_isPlainName h.name
  rw [spanEnd, List.append_assoc, spanEndFrom_name hname, spanEndFrom_printArguments h,
    List.length_append, Nat.zero_add]

theorem spanEnd_printClosing {name : List Char} (h : isPlainName name = true) (rest : List Char) :
    spanEnd ('/' :: name ++ ']' :: rest) = .closed ('/' :: name).length := by
  have hname := isNameChar_of_isPlainName h
  show spanEndFrom (.plain false) 1 (name ++ ']' :: rest) = _
  rw [spanEndFrom_name hname]
  show SpanEnd.closed (1 + name.length) = _
  rw [List.length_cons, Nat.add_comm]

/-! ## Reading what was printed -/

theorem readPairs_print {pairs : List (String × String)}
    (hkey : ∀ p ∈ pairs, p.1.toList ≠ [] ∧ ∀ c ∈ p.1.toList, isKeyChar c = true)
    (hvalue : ∀ p ∈ pairs, '"' ∉ p.2.toList) :
    readPairs (pairs.flatMap printPair) = some pairs := by
  induction pairs with
  | nil =>
    rw [List.flatMap_nil, readPairs]
    rfl
  | cons p pairs ih =>
    obtain ⟨hne, hchars⟩ := hkey p List.mem_cons_self
    have hname : ∀ c ∈ p.1.toList, isNameChar c = true := fun c hc =>
      isNameChar_of_isKeyChar (hchars c hc)
    have hblank : ∀ c ∈ [' '], isBlank c = true := List.forall_mem_singleton.2 rfl
    have hbreak : atBreak (pairs.flatMap printPair) = true := by
      cases pairs with
      | nil => rfl
      | cons q pairs => rfl
    have hsplit : (p :: pairs).flatMap printPair =
        [' '] ++ (p.1.toList ++ '=' :: (between '"' p.2.toList ++ pairs.flatMap printPair)) := by
      rw [List.flatMap_cons, printPair, inQuotes_eq]
      simp
    rw [hsplit, readPairs_key hblank hne hname,
      readValue_between rfl (hvalue p List.mem_cons_self), if_pos hbreak, Option.bind_some,
      ih (fun q hq => hkey q (List.mem_cons_of_mem p hq))
        (fun q hq => hvalue q (List.mem_cons_of_mem p hq)),
      fold_of_isKeyChar hchars, String.ofList_toList, String.ofList_toList]
    rfl

theorem eq_empty_of_toList {kwargs : Dict String} (h : kwargs.toList = []) : kwargs = .empty := by
  rw [← Dict.ofList_toList kwargs, h]
  rfl

/-- What a printed opening says is what was printed. -/
theorem readOpening_print {opening : Opening} (h : opening.Printable) :
    readOpening (opening.name.toList ++ printArguments opening) = some opening := by
  have hname := isName_of_isPlainName h.name
  have hfold := ofList_fold_of_isPlainName h.name
  cases harg : opening.arg with
  | some arg =>
    have hkwargs : opening.kwargs = .empty := by
      rcases h.one_kind with hnone | hkwargs
      · rw [hnone] at harg
        cases harg
      · exact hkwargs
    simp only [printArguments, harg]
    rw [inQuotes_eq, readOpening_argument hname, trim_between rfl, unquote_between rfl, hfold,
      String.ofList_toList, ← harg, ← hkwargs]
  | none =>
    have hread := readPairs_print h.key h.value
    simp only [printArguments, harg]
    cases hpairs : opening.kwargs.toList with
    | nil =>
      rw [List.flatMap_nil, List.append_nil, readOpening_name hname, hfold, ← harg,
        ← eq_empty_of_toList hpairs]
    | cons p pairs =>
      have hkeywords : readKeywords (opening.kwargs.toList.flatMap printPair) =
          some opening.kwargs := by
        rw [readKeywords, hread, Option.map_some, Dict.ofList_toList]
      have hcons : (p :: pairs).flatMap printPair =
          ' ' :: (p.1.toList ++ '=' :: inQuotes p.2 ++ pairs.flatMap printPair) := by
        rw [List.flatMap_cons, printPair]
        rfl
      rw [hpairs, hcons] at hkeywords
      rw [hcons, readOpening_keywords hname, hkeywords, Option.map_some, hfold, ← harg]

theorem readClosing_print {name : String} (h : isPlainName name.toList = true) :
    readClosing name.toList = some name := by
  have hblank : ∀ c ∈ name.toList, isBlank c = false := fun c hc =>
    isBlank_of_isNameChar (isNameChar_of_isPlainName h c hc)
  have hne := ne_nil_of_isName (isName_of_isPlainName h)
  obtain ⟨c, back, hfront⟩ := List.exists_cons_of_ne_nil hne
  have htrim : trim name.toList = name.toList :=
    trim_eq_self hfront (List.dropLast_concat_getLast hne).symm
      (hblank c (hfront ▸ List.mem_cons_self)) (hblank _ (List.getLast_mem hne))
  rw [readClosing, htrim, if_pos (isName_of_isPlainName h), ofList_fold_of_isPlainName h]

theorem scan_printOpening {opening : Opening} (h : opening.Printable) (rest : List Char) :
    scan (printOpening opening ++ rest) =
      .opening (String.ofList (printOpening opening)) opening :: scan rest := by
  have hspan : printOpening opening ++ rest =
      '[' :: (opening.name.toList ++ printArguments opening ++ ']' :: rest) := by
    simp [printOpening]
  rw [hspan, scan_span (spanEnd_printOpening h rest), readSpan_name (isName_of_isPlainName h.name),
    readOpening_print h]
  rfl

theorem scan_printClosing {name : String} (h : isPlainName name.toList = true) (rest : List Char) :
    scan (printClosing name ++ rest) =
      .closing (String.ofList (printClosing name)) name :: scan rest := by
  have hspan : printClosing name ++ rest = '[' :: ('/' :: name.toList ++ ']' :: rest) := by
    simp [printClosing]
  rw [hspan, scan_span (spanEnd_printClosing h rest), readSpan,
    readClosing_print h]
  rfl

end Markup
end BracketMark
