import BracketMark.Markup.Nest
import BracketMark.Proofs.Markup.Quoted
import BracketMark.Proofs.Markup.Surplus
import BracketMark.Proofs.Text.Fold

/-!
# Reading does not depend on letter case

Write a text in lower case and read it: the forest is the one of the text itself with its texts in
lower case, while names and keys, which are kept in lower case anyway, are the same
(`parse_foldCase`).  Each stage of reading commutes with lower case in this way, and the module
goes through them in order: spans, values and keyword arguments, opening and closing tags, tokens,
marks, nests.  Two texts that differ in case only therefore read as forests of one shape
(`Variants`).
-/

namespace BracketMark

open Text

/-! ## Dictionaries of texts -/

namespace Dict

variable {β γ : Type}

/-- A dictionary with the same keys and with other values. -/
def map (f : β → γ) (d : Dict β) : Dict γ :=
  ⟨d.entries.map fun p => (p.1, f p.2), List.pairwise_map.2 d.sorted⟩

theorem lookup_map_snd (f : β → γ) (pairs : List (String × β)) (key : String) :
    (pairs.map fun p => (p.1, f p.2)).lookup key = (pairs.lookup key).map f := by
  induction pairs with
  | nil => rfl
  | cons p pairs ih =>
    obtain ⟨k, v⟩ := p
    rw [List.map_cons, List.lookup_cons, List.lookup_cons, ih]
    cases key == k with
    | true => rfl
    | false => rfl

theorem get?_map (f : β → γ) (d : Dict β) (key : String) :
    (d.map f).get? key = (d.get? key).map f :=
  lookup_map_snd f d.entries key

theorem map_ofList (f : β → γ) (pairs : List (String × β)) :
    ofList (pairs.map fun p => (p.1, f p.2)) = (ofList pairs).map f := by
  apply ext_get?
  intro key
  rw [get?_map, get?_ofList, get?_ofList, ← List.map_reverse, lookup_map_snd]

end Dict

namespace Markup

/-! ## Classes of characters -/

theorem isNameChar_toLower (c : Char) : isNameChar c.toLower = isNameChar c := by
  rcases toLower_eq_or_capital c with hc | ⟨n, rfl⟩
  · rw [hc]
  · revert n
    decide

theorem isNameStart_toLower (c : Char) : isNameStart c.toLower = isNameStart c := by
  rcases toLower_eq_or_capital c with hc | ⟨n, rfl⟩
  · rw [hc]
  · revert n
    decide

theorem isQuote_toLower (c : Char) : isQuote c.toLower = isQuote c := by
  rw [isQuote, isQuote, beq_toLower rfl, beq_toLower rfl]

theorem isAlpha_of_isQuote {c : Char} (h : isQuote c = true) : c.isAlpha = false := by
  rcases isQuote_iff.1 h with rfl | rfl
  · rfl
  · rfl

theorem toLower_of_isQuote {c : Char} (h : isQuote c = true) : c.toLower = c :=
  (toLower_eq_iff (isAlpha_of_isQuote h)).2 rfl

theorem isName_fold (cs : List Char) : isName (fold cs) = isName cs := by
  cases cs with
  | nil => rfl
  | cons c cs => rw [fold_cons, isName, isName, isNameStart_toLower, all_fold isNameChar_toLower]

/-! ## Spans -/

theorem bracketEnd_toLower (size : Nat) (c : Char) :
    bracketEnd size c.toLower = bracketEnd size c := by
  simp only [bracketEnd, toLower_eq_iff (d := ']') rfl, toLower_eq_iff (d := '[') rfl]

theorem closesQuote_fold (cs : List Char) : closesQuote (fold cs) = closesQuote cs := by
  cases cs with
  | nil => rfl
  | cons c cs => rw [fold_cons, closesQuote, closesQuote, beq_toLower rfl, isBlank_toLower]

/-- The search for the end of a span is inside a quote only after a quote character. -/
def SpanMode.KnowsQuote : SpanMode → Prop
  | .plain _ => True
  | .quoted quote _ => isQuote quote = true

theorem spanEndFrom_fold {mode : SpanMode} (hmode : mode.KnowsQuote) (size : Nat)
    (cs : List Char) : spanEndFrom mode size (fold cs) = spanEndFrom mode size cs := by
  induction cs generalizing mode size with
  | nil => rfl
  | cons c cs ih =>
    have hplain (afterEquals : Bool) :=
      ih (show (SpanMode.plain afterEquals).KnowsQuote from trivial)
    have hquoted {quote : Char} (h : isQuote quote = true) (fallback : SpanEnd) :=
      ih (show (SpanMode.quoted quote fallback).KnowsQuote from h)
    rw [fold_cons]
    cases mode with
    | plain afterEquals =>
      rw [spanEndFrom, spanEndFrom, bracketEnd_toLower, isQuote_toLower, isBlank_toLower,
        beq_toLower rfl, hplain]
      cases hquote : isQuote c with
      | true => rw [toLower_of_isQuote hquote, hquoted hquote]
      | false => rw [Bool.and_false, if_neg Bool.false_ne_true, if_neg Bool.false_ne_true]
    | quoted quote fallback =>
      rw [spanEndFrom, spanEndFrom, bracketEnd_toLower, closesQuote_fold,
        beq_toLower (isAlpha_of_isQuote hmode), hplain, hquoted hmode]

theorem spanEnd_fold (cs : List Char) : spanEnd (fold cs) = spanEnd cs := by
  have hplain : (SpanMode.plain false).KnowsQuote := trivial
  exact spanEndFrom_fold hplain 0 cs

/-! ## Keyword arguments -/

theorem atBreak_fold (cs : List Char) : atBreak (fold cs) = atBreak cs := by
  cases cs with
  | nil => rfl
  | cons c cs => rw [fold_cons, atBreak, atBreak, isBlank_toLower]

theorem readValue_fold (cs : List Char) :
    readValue (fold cs) = (readValue cs).map fun p => (fold p.1, fold p.2) := by
  cases cs with
  | nil => rfl
  | cons c cs =>
    rw [fold_cons, readValue, readValue, isQuote_toLower]
    cases hquote : isQuote c with
    | true =>
      have hother (d : Char) : (d.toLower != c) = (d != c) :=
        bne_toLower (isAlpha_of_isQuote hquote)
      rw [toLower_of_isQuote hquote, takeWhile_fold hother, dropWhile_fold hother]
      cases cs.dropWhile (· != c) with
      | nil => rfl
      | cons quote rest =>
        simp only [if_true, fold_cons, atBreak_fold]
        cases atBreak rest with
        | true => rfl
        | false => rfl
    | false =>
      have hword (d : Char) : (!isBlank d.toLower) = !isBlank d := by rw [isBlank_toLower]
      rw [if_neg Bool.false_ne_true, if_neg Bool.false_ne_true, ← fold_cons, takeWhile_fold hword,
        dropWhile_fold hword]
      rfl

theorem readPair_fold (cs : List Char) :
    readPair (fold cs) = (readPair cs).map fun p => ((p.1.1, foldCase p.1.2), fold p.2) := by
  rw [readPair, readPair, takeWhile_fold isNameChar_toLower, dropWhile_fold isNameChar_toLower]
  cases cs.takeWhile isNameChar with
  | nil => rfl
  | cons k ks =>
    cases cs.dropWhile isNameChar with
    | nil => rfl
    | cons c rest =>
      by_cases hc : c = '='
      · subst hc
        show ((readValue (fold rest)).map fun p =>
            ((String.ofList (fold (fold (k :: ks))), String.ofList p.1), p.2)) =
          ((readValue rest).map fun p =>
            ((String.ofList (fold (k :: ks)), String.ofList p.1), p.2)).map _
        rw [readValue_fold, Option.map_map, Option.map_map, fold_fold]
        congr 1
        funext p
        simp only [Function.comp_apply, ofList_fold]
      · have hlower : c.toLower ≠ '=' := fun h => hc ((toLower_eq_iff rfl).1 h)
        simp [hc, hlower]

/-- A pair with its value in lower case. -/
def lowerValue (pair : String × String) : String × String :=
  (pair.1, foldCase pair.2)

theorem trimStart_fold (cs : List Char) : trimStart (fold cs) = fold (trimStart cs) :=
  dropWhile_fold isBlank_toLower cs

theorem readPairs_fold (cs : List Char) :
    readPairs (fold cs) = (readPairs cs).map (·.map lowerValue) := by
  induction cs using readPairs.induct with
  | case1 cs hskip =>
    rw [readPairs_eq, readPairs_eq cs, trimStart_fold, hskip]
    rfl
  | case2 cs d ds hskip hread =>
    rw [readPairs_eq, readPairs_eq cs, trimStart_fold, hskip]
    show (readPair (fold (d :: ds))).bind _ = ((readPair (d :: ds)).bind _).map _
    rw [readPair_fold, hread]
    rfl
  | case3 cs d ds hskip p rest hread ih =>
    rw [readPairs_eq, readPairs_eq cs, trimStart_fold, hskip]
    show (readPair (fold (d :: ds))).bind _ = ((readPair (d :: ds)).bind _).map _
    rw [readPair_fold, hread]
    show (readPairs (fold rest)).map (lowerValue p :: ·) =
      ((readPairs rest).map (p :: ·)).map (·.map lowerValue)
    rw [ih, Option.map_map, Option.map_map]
    rfl

theorem readKeywords_fold (cs : List Char) :
    readKeywords (fold cs) = (readKeywords cs).map (Dict.map foldCase) := by
  rw [readKeywords, readKeywords, readPairs_fold, Option.map_map, Option.map_map]
  congr 1
  funext pairs
  exact Dict.map_ofList foldCase pairs

/-! ## Tags -/

theorem unquote_fold (cs : List Char) : unquote (fold cs) = fold (unquote cs) := by
  match cs with
  | [] => rfl
  | [q] => rfl
  | q :: r :: rest =>
    have hlast : (fold (r :: rest)).getLast? = (r :: rest).getLast?.map Char.toLower :=
      List.getLast?_map
    show (if isQuote q.toLower && (fold (r :: rest)).getLast? == some q.toLower then
        (fold (r :: rest)).dropLast else fold (q :: r :: rest)) =
      fold (if isQuote q && (r :: rest).getLast? == some q then (r :: rest).dropLast
        else q :: r :: rest)
    rw [isQuote_toLower, hlast]
    cases hquote : isQuote q with
    | false => rfl
    | true =>
      have hends : ((r :: rest).getLast?.map Char.toLower == some q.toLower) =
          ((r :: rest).getLast? == some q) := by
        rw [toLower_of_isQuote hquote, Bool.eq_iff_iff, beq_iff_eq, beq_iff_eq,
          Option.map_eq_some_iff]
        simp [toLower_eq_iff (isAlpha_of_isQuote hquote)]
      rw [hends]
      split
      · exact List.map_dropLast.symm
      · rfl

/-- An opening tag with its argument and values in lower case. -/
def Opening.lower (opening : Opening) : Opening :=
  ⟨opening.name, opening.arg.map foldCase, opening.kwargs.map foldCase⟩

theorem readOpening_fold (content : List Char) :
    readOpening (fold content) = (readOpening content).map Opening.lower := by
  rw [readOpening, readOpening, takeWhile_fold isNameChar_toLower,
    dropWhile_fold isNameChar_toLower]
  simp only [isName_fold, fold_fold]
  cases isName (content.takeWhile isNameChar) with
  | false => rfl
  | true =>
    cases content.dropWhile isNameChar with
    | nil => rfl
    | cons c rest =>
      simp only [fold_cons, toLower_eq_iff (d := '=') rfl, isBlank_toLower, trim_fold,
        unquote_fold, if_true]
      by_cases hc : c = '='
      · simp only [if_pos hc, ofList_fold]
        rfl
      · rw [if_neg hc, if_neg hc]
        cases isBlank c with
        | false => rfl
        | true =>
          rw [if_pos rfl, if_pos rfl, ← fold_cons, readKeywords_fold, Option.map_map,
            Option.map_map]
          rfl

theorem readClosing_fold (content : List Char) :
    readClosing (fold content) = readClosing content := by
  simp only [readClosing, trim_fold, isName_fold, fold_fold]

/-! ## Tokens -/

/-- A token of the text in lower case. -/
def Token.lower : Token → Token
  | .text raw => .text (foldCase raw)
  | .opening raw tag => .opening (foldCase raw) tag.lower
  | .closing raw name => .closing (foldCase raw) name
  | .malformed raw => .malformed (foldCase raw)

theorem readSpan_fold (content : List Char) :
    readSpan (fold content) = (readSpan content).lower := by
  have hraw : String.ofList ('[' :: fold content ++ [']']) =
      foldCase (String.ofList ('[' :: content ++ [']'])) := by
    rw [← ofList_fold, List.cons_append, List.cons_append, fold_cons, fold_append]
    rfl
  by_cases hslash : content.head? = some '/'
  · obtain ⟨rest, rfl⟩ := List.head?_eq_some_iff.1 hslash
    have hfold : fold ('/' :: rest) = '/' :: fold rest := rfl
    rw [hfold] at hraw ⊢
    rw [readSpan, readSpan, hraw, readClosing_fold]
    cases readClosing rest with
    | some name => rfl
    | none => rfl
  · have hlower : (fold content).head? ≠ some '/' := by
      cases content with
      | nil => exact hslash
      | cons c rest => simpa [toLower_eq_iff (d := '/') rfl] using hslash
    rw [readSpan_of_head?_ne hlower, readSpan_of_head?_ne hslash, hraw, readOpening_fold]
    cases readOpening content with
    | some tag => rfl
    | none => rfl

theorem scan_fold (cs : List Char) : scan (fold cs) = (scan cs).map Token.lower := by
  have hbracket : Char.toLower '[' = '[' := rfl
  induction cs using scan.induct with
  | case1 =>
    rw [fold_nil, scan]
    rfl
  | case2 rest size hend ih =>
    have htake : (fold rest).take size = fold (rest.take size) := List.map_take.symm
    have hdrop : (fold rest).drop (size + 1) = fold (rest.drop (size + 1)) := List.map_drop.symm
    rw [fold_cons, hbracket, scan, scan, if_pos rfl, if_pos rfl, spanEnd_fold, hend]
    simp only [htake, hdrop, readSpan_fold, ih, List.map_cons]
  | case3 rest size hend ih =>
    have htake : (fold rest).take size = fold (rest.take size) := List.map_take.symm
    have hdrop : (fold rest).drop size = fold (rest.drop size) := List.map_drop.symm
    have hraw := ofList_fold ('[' :: rest.take size)
    rw [fold_cons, hbracket] at hraw ⊢
    rw [scan, scan, if_pos rfl, if_pos rfl, spanEnd_fold, hend]
    simp only [htake, hdrop, hraw, ih, List.map_cons]
    rfl
  | case4 rest hend =>
    have hraw := ofList_fold ('[' :: rest)
    rw [fold_cons, hbracket] at hraw ⊢
    rw [scan, scan, if_pos rfl, if_pos rfl, spanEnd_fold, hend]
    simp only [hraw]
    rfl
  | case5 c rest hc ih =>
    have hother (d : Char) : (d.toLower != '[') = (d != '[') := bne_toLower rfl
    have hraw := ofList_fold (c :: rest.takeWhile (· != '['))
    have hlower : ¬c.toLower = '[' := fun h => hc ((toLower_eq_iff rfl).1 h)
    rw [fold_cons] at hraw ⊢
    rw [scan, scan, if_neg hlower, if_neg hc, takeWhile_fold hother, dropWhile_fold hother, hraw,
      ih]
    rfl

/-! ## Marks -/

theorem step_token_lower (free : Free) (token : Token) :
    free.step token.lower = free.step token := by
  cases token with
  | text raw => rfl
  | opening raw tag => rfl
  | closing raw name => rfl
  | malformed raw => rfl

theorem closable_map_lower (tokens : List Token) :
    closable (tokens.map Token.lower) = closable tokens := by
  rw [closable, closable, closableFrom, closableFrom, List.foldr_map]
  simp only [step_token_lower]

/-! ## Nodes -/

mutual

/-- A node with its texts in lower case. -/
def Node.lower : Node → Node
  | .literal text => .literal (foldCase text)
  | .tagged opening children => .tagged opening.lower (lowerAll children)

def lowerAll : List Node → List Node
  | [] => []
  | node :: nodes => node.lower :: lowerAll nodes

end

theorem lowerAll_eq_map (nodes : List Node) : lowerAll nodes = nodes.map Node.lower := by
  induction nodes with
  | nil => rfl
  | cons node nodes ih => rw [lowerAll, ih, List.map_cons]

theorem lowerAll_reverse (nodes : List Node) :
    lowerAll nodes.reverse = (lowerAll nodes).reverse := by
  rw [lowerAll_eq_map, lowerAll_eq_map, List.map_reverse]

def OpenTag.lower (tag : OpenTag) : OpenTag :=
  ⟨tag.opening.lower, lowerAll tag.before⟩

namespace Nest

def lower (nest : Nest) : Nest :=
  ⟨lowerAll nest.current, nest.stack.map OpenTag.lower⟩

theorem lowerAll_appendText (text : String) (nodes : List Node) :
    lowerAll (appendText text nodes) = appendText (foldCase text) (lowerAll nodes) := by
  have hnew (nodes : List Node) :
      lowerAll (if text = "" then nodes else .literal text :: nodes) =
        if foldCase text = "" then lowerAll nodes
        else .literal (foldCase text) :: lowerAll nodes := by
    by_cases htext : text = ""
    · rw [if_pos htext, if_pos (foldCase_eq_empty_iff.2 htext)]
    · rw [if_neg htext, if_neg fun h => htext (foldCase_eq_empty_iff.1 h)]
      rfl
  match nodes with
  | [] => exact hnew []
  | .tagged opening children :: rest => exact hnew (.tagged opening children :: rest)
  | .literal last :: rest =>
    rw [appendText, lowerAll, lowerAll, Node.lower, Node.lower, appendText, foldCase_append]

theorem lower_addText (nest : Nest) (text : String) :
    (nest.addText text).lower = nest.lower.addText (foldCase text) := by
  rw [addText, lower, lowerAll_appendText]
  rfl

theorem isOpen_lower (nest : Nest) (name : String) : nest.lower.isOpen name = nest.isOpen name := by
  rw [isOpen, lower, List.any_map]
  rfl

theorem lowerAll_closed (opening : Opening) (current before : List Node) :
    lowerAll (.tagged opening current.reverse :: before) =
      .tagged opening.lower (lowerAll current).reverse :: lowerAll before := by
  rw [lowerAll, Node.lower, lowerAll_reverse]

theorem lower_closeThrough (name : String) (current : List Node) (stack : List OpenTag) :
    (closeThrough name current stack).lower =
      closeThrough name (lowerAll current) (stack.map OpenTag.lower) := by
  induction stack generalizing current with
  | nil => rfl
  | cons tag stack ih =>
    have hname : tag.lower.opening.name = tag.opening.name := rfl
    rw [List.map_cons, closeThrough, closeThrough, hname]
    by_cases h : tag.opening.name = name
    · rw [if_pos h, if_pos h, lower, lowerAll_closed]
      rfl
    · rw [if_neg h, if_neg h, ih, lowerAll_closed]
      rfl

theorem lowerAll_closeAll (current : List Node) (stack : List OpenTag) :
    lowerAll (closeAll current stack) = closeAll (lowerAll current) (stack.map OpenTag.lower) := by
  induction stack generalizing current with
  | nil => exact lowerAll_reverse current
  | cons tag stack ih =>
    rw [closeAll, ih, lowerAll_closed]
    rfl

/-- **One token in lower case** does to the nest in lower case what the token does. -/
theorem lower_step (limit : Nat) (nest : Nest) (token : Token) (mark : Bool) :
    (nest.step limit token mark).lower = nest.lower.step limit token.lower mark := by
  cases token with
  | text raw => exact lower_addText nest raw
  | malformed raw => exact lower_addText nest raw
  | opening raw tag =>
    have hdepth : nest.lower.stack.length = nest.stack.length := List.length_map _
    rw [step, Token.lower, step, hdepth]
    split
    · rfl
    · exact lower_addText nest raw
  | closing raw name =>
    rw [step, Token.lower, step, isOpen_lower]
    split
    · exact lower_closeThrough name nest.current nest.stack
    · exact lower_addText nest raw

theorem lower_run (limit : Nat) (nest : Nest) (tokens : List (Token × Bool)) :
    (nest.run limit tokens).lower =
      nest.lower.run limit (tokens.map fun p => (p.1.lower, p.2)) := by
  induction tokens generalizing nest with
  | nil => rfl
  | cons p tokens ih => rw [List.map_cons, run_cons, run_cons, ih, lower_step]

end Nest

/-! ## Forests -/

/-- **Reading commutes with lower case**, under any limit. -/
theorem parse_foldCase (limit : Nat) (markup : String) :
    parse limit (foldCase markup) = lowerAll (parse limit markup) := by
  have htokens : tokens (foldCase markup) = (tokens markup).map Token.lower := by
    rw [tokens, toList_foldCase, scan_fold, tokens]
  have hmarked : ((tokens markup).map Token.lower).zip (closable (tokens markup)) =
      ((tokens markup).zip (closable (tokens markup))).map fun p => (p.1.lower, p.2) :=
    List.zip_map_left ..
  rw [parse, parse, htokens, nestTokens, nestTokens, closable_map_lower, hmarked, Nest.finish,
    Nest.finish, Nest.lowerAll_closeAll]
  exact congrArg (fun nest => Nest.closeAll nest.current nest.stack)
    (Nest.lower_run limit .empty _).symm

/-- Texts that differ in the case of ASCII letters only. -/
def SameLetters (text other : String) : Prop :=
  foldCase text = foldCase other

/-- Opening tags of one name that give texts of the same letters to the same keys. -/
structure Opening.IsVariant (opening other : Opening) : Prop where
  name : opening.name = other.name
  arg : Option.Rel SameLetters opening.arg other.arg
  kwargs (key : String) : Option.Rel SameLetters (opening.kwargs.get? key) (other.kwargs.get? key)

/-- Forests of one shape whose tags are called alike and whose texts have the same letters. -/
inductive Variants : List Node → List Node → Prop
  | nil : Variants [] []
  | literal {text other : String} {nodes others : List Node} (htext : SameLetters text other)
      (hrest : Variants nodes others) :
      Variants (.literal text :: nodes) (.literal other :: others)
  | tagged {opening opening' : Opening} {children children' nodes others : List Node}
      (hopening : opening.IsVariant opening') (hchildren : Variants children children')
      (hrest : Variants nodes others) :
      Variants (.tagged opening children :: nodes) (.tagged opening' children' :: others)

theorem rel_of_map_foldCase {text? other? : Option String}
    (h : text?.map foldCase = other?.map foldCase) : Option.Rel SameLetters text? other? := by
  match text?, other? with
  | none, none => exact .none
  | some text, some other => exact .some (Option.some.inj h)
  | none, some other => cases h
  | some text, none => cases h

theorem Opening.isVariant_of_lower {opening other : Opening} (h : opening.lower = other.lower) :
    opening.IsVariant other := by
  obtain ⟨hname, harg, hkwargs⟩ := Opening.mk.inj h
  refine ⟨hname, rel_of_map_foldCase harg, fun key => rel_of_map_foldCase ?_⟩
  rw [← Dict.get?_map, ← Dict.get?_map, hkwargs]

mutual

theorem variants_cons {node other : Node} {nodes others : List Node} (h : node.lower = other.lower)
    (hrest : Variants nodes others) : Variants (node :: nodes) (other :: others) := by
  match node, other with
  | .literal text, .literal text' =>
    rw [Node.lower, Node.lower] at h
    exact .literal (Node.literal.inj h) hrest
  | .tagged opening children, .tagged opening' children' =>
    rw [Node.lower, Node.lower] at h
    obtain ⟨hopening, hchildren⟩ := Node.tagged.inj h
    exact .tagged (Opening.isVariant_of_lower hopening) (variants_of_lowerAll hchildren) hrest
  | .literal text, .tagged opening children =>
    rw [Node.lower, Node.lower] at h
    cases h
  | .tagged opening children, .literal text =>
    rw [Node.lower, Node.lower] at h
    cases h

theorem variants_of_lowerAll {nodes others : List Node} (h : lowerAll nodes = lowerAll others) :
    Variants nodes others := by
  match nodes, others with
  | [], [] => exact .nil
  | node :: nodes, other :: others =>
    rw [lowerAll, lowerAll] at h
    obtain ⟨hnode, hrest⟩ := List.cons.inj h
    exact variants_cons hnode (variants_of_lowerAll hrest)
  | [], other :: others =>
    rw [lowerAll, lowerAll] at h
    cases h
  | node :: nodes, [] =>
    rw [lowerAll, lowerAll] at h
    cases h

end

/-- **Letter case never changes the structure.**  Under any limit, a text in lower case reads as
    the forest of the text with its texts in lower case; and texts that differ in the case of
    ASCII letters only read as forests of one shape, with the same names and keys, whose texts
    differ in no more. -/
theorem parse_ignoresCase (limit : Nat) :
    (∀ markup, parse limit (foldCase markup) = lowerAll (parse limit markup)) ∧
      ∀ markup other, SameLetters markup other →
        Variants (parse limit markup) (parse limit other) := by
  refine ⟨parse_foldCase limit, fun markup other hsame => variants_of_lowerAll ?_⟩
  rw [← parse_foldCase, ← parse_foldCase]
  exact congrArg (parse limit) hsame

/-- The keys of one tag fall together in either text, and the later one wins in both. -/
theorem parse_ignoresCase_quotation :
    let markup := "[Quote By='Ann Lee' bY=Bob][b]x[/B] Hi[/quotE]"
    let other := "[QUOTE by='ann lee' BY=boB][B]X[/b] hI[/QUOTE]"
    SameLetters markup other ∧ Variants (parse 2 markup) (parse 2 other) ∧
      parse 2 (foldCase markup) = lowerAll (parse 2 markup) := by
  have hsame : SameLetters "[Quote By='Ann Lee' bY=Bob][b]x[/B] Hi[/quotE]"
      "[QUOTE by='ann lee' BY=boB][B]X[/b] hI[/QUOTE]" := by
    unfold SameLetters
    decide +kernel
  exact ⟨hsame, (parse_ignoresCase 2).2 _ _ hsame, (parse_ignoresCase 2).1 _⟩

end Markup
end BracketMark
