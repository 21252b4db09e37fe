import BracketMark.Markup.Nest
import BracketMark.Proofs.Markup.Scan
import BracketMark.Proofs.Markup.Surplus

/-!
# The layout of a text

A forest does not say which tokens its nodes were read from.  A layout does: it is the forest that
a text has when no limit applies, with the tokens of every literal and the spellings of both ends
of every tag.  It is made by a nest of its own (`Draft`), which takes the steps of a nest and
keeps the tokens.

Two things are said about it.  Without its tokens it is the forest that reading gives under any
limit that no tag can reach (`nodes_layout`).  And its tokens are those of the text, in order,
and show what became of each: a marked opening is a tag, all that a literal holds is unmarked
(`markedAll_layout`).
-/

namespace BracketMark
namespace Markup

/-- The text that tokens spell. -/
def spell : List Token → String
  | [] => ""
  | token :: tokens => token.raw ++ spell tokens

theorem spell_append (tokens more : List Token) :
    spell (tokens ++ more) = spell tokens ++ spell more := by
  induction tokens with
  | nil => exact String.empty_append.symm
  | cons token tokens ih => rw [List.cons_append, spell, spell, ih, String.append_assoc]

theorem toList_spell (tokens : List Token) :
    (spell tokens).toList = tokens.flatMap (·.raw.toList) := by
  induction tokens with
  | nil => rfl
  | cons token tokens ih => rw [spell, String.toList_append, ih, List.flatMap_cons]

theorem spell_tokens (markup : String) : spell (tokens markup) = markup := by
  rw [← String.toList_inj, toList_spell, tokens, flatMap_raw_scan]

/-! ## Passages -/

/-- A node with the tokens it was read from. -/
inductive Passage where
  /-- What reads as text. -/
  | text (tokens : List Token)
  /-- A tag: how its opening tag is spelled and what it says, what is inside, and how its own
      closing tag is spelled.  A tag that an outer one closes has none. -/
  | tag (raw : String) (opening : Opening) (inside : List Passage) (closing : Option String)

/-- The closing tag of a name, if there is one. -/
def closingToken (name : String) (closing : Option String) : List Token :=
  (closing.map fun raw => Token.closing raw name).toList

namespace Passage

mutual

/-- The node alone. -/
def node : Passage → Node
  | .text tokens => .literal (spell tokens)
  | .tag _ opening inside _ => .tagged opening (nodes inside)

def nodes : List Passage → Forest
  | [] => []
  | passage :: passages => passage.node :: nodes passages

end

mutual

/-- The tokens, each with whether it is an opening that was closed. -/
def marked : Passage → List (Token × Bool)
  | .text tokens => tokens.map fun token => (token, false)
  | .tag raw opening inside closing =>
    (.opening raw opening, true) ::
      (markedAll inside ++ (closingToken opening.name closing).map fun token => (token, false))

def markedAll : List Passage → List (Token × Bool)
  | [] => []
  | passage :: passages => passage.marked ++ markedAll passages

end

theorem nodes_eq_map (passages : List Passage) : nodes passages = passages.map node := by
  induction passages with
  | nil => rfl
  | cons passage passages ih => rw [nodes, ih, List.map_cons]

theorem markedAll_append (passages more : List Passage) :
    markedAll (passages ++ more) = markedAll passages ++ markedAll more := by
  induction passages with
  | nil => rfl
  | cons passage passages ih => rw [List.cons_append, markedAll, markedAll, ih, List.append_assoc]

theorem markedAll_reverse_cons (passage : Passage) (passages : List Passage) :
    markedAll (passage :: passages).reverse = markedAll passages.reverse ++ passage.marked := by
  rw [List.reverse_cons, markedAll_append, markedAll, markedAll, List.append_nil]

end Passage

/-! ## Drafts -/

/-- A tag that is still open. -/
structure OpenPassage where
  raw : String
  opening : Opening
  /-- The passages before the tag, the last one first. -/
  before : List Passage

/-- A layout under construction: a nest that keeps its tokens and knows no limit. -/
structure Draft where
  /-- The passages inside the innermost open tag, the last one first. -/
  current : List Passage
  /-- The open tags, the innermost first. -/
  stack : List OpenPassage

namespace Draft

def empty : Draft := ⟨[], []⟩

/-- A token of text at the end of passages whose last one comes first. -/
def appendToken (token : Token) : List Passage → List Passage
  | .text tokens :: rest => .text (tokens ++ [token]) :: rest
  | passages => .text [token] :: passages

def addToken (draft : Draft) (token : Token) : Draft :=
  { draft with current := appendToken token draft.current }

def push (draft : Draft) (raw : String) (opening : Opening) : Draft :=
  ⟨[], ⟨raw, opening, draft.current⟩ :: draft.stack⟩

def isOpen (draft : Draft) (name : String) : Bool :=
  draft.stack.any (·.opening.name == name)

/-- Tags close from the inside out; the first of the name has the closing tag for its own. -/
def closeThrough (raw name : String) : List Passage → List OpenPassage → Draft
  | current, [] => ⟨current, []⟩
  | current, tag :: stack =>
    if tag.opening.name = name then
      ⟨.tag tag.raw tag.opening current.reverse (some raw) :: tag.before, stack⟩
    else closeThrough raw name (.tag tag.raw tag.opening current.reverse none :: tag.before) stack

def closeAll : List Passage → List OpenPassage → List Passage
  | current, [] => current.reverse
  | current, tag :: stack =>
    closeAll (.tag tag.raw tag.opening current.reverse none :: tag.before) stack

/-- One token, with whether it is a closable opening. -/
def step (draft : Draft) (token : Token) (mark : Bool) : Draft :=
  match token with
  | .opening raw opening => if mark then draft.push raw opening else draft.addToken token
  | .closing raw name =>
    if draft.isOpen name then closeThrough raw name draft.current draft.stack
    else draft.addToken token
  | _ => draft.addToken token

def run (draft : Draft) (tokens : List (Token × Bool)) : Draft :=
  tokens.foldl (fun draft p => draft.step p.1 p.2) draft

def finish (draft : Draft) : List Passage :=
  closeAll draft.current draft.stack

end Draft

def layout (markup : String) : List Passage :=
  (Draft.empty.run (withMarks (tokens markup))).finish

/-! ## The tokens of a layout -/

namespace Draft

open Passage (markedAll markedAll_reverse_cons)

/-- The tokens up to the inside of the innermost open tag. -/
def markedOpen : List OpenPassage → List (Token × Bool)
  | [] => []
  | tag :: stack =>
    markedOpen stack ++ markedAll tag.before.reverse ++ [(.opening tag.raw tag.opening, true)]

def marked (draft : Draft) : List (Token × Bool) :=
  markedOpen draft.stack ++ markedAll draft.current.reverse

theorem marked_addToken (draft : Draft) (token : Token) :
    (draft.addToken token).marked = draft.marked ++ [(token, false)] := by
  have hcurrent : markedAll (appendToken token draft.current).reverse =
      markedAll draft.current.reverse ++ [(token, false)] := by
    unfold appendToken
    split
    case h_1 _ tokens rest hcurrent =>
      rw [hcurrent, markedAll_reverse_cons, markedAll_reverse_cons, Passage.marked,
        Passage.marked, List.map_append, List.append_assoc]
      rfl
    case h_2 => rw [markedAll_reverse_cons, Passage.marked, List.map_singleton]
  rw [marked, marked, List.append_assoc]
  exact congrArg (markedOpen draft.stack ++ ·) hcurrent

theorem marked_push (draft : Draft) (raw : String) (opening : Opening) :
    (draft.push raw opening).marked = draft.marked ++ [(.opening raw opening, true)] :=
  List.append_nil _

/-- The tokens of a tag that has just been closed, behind those before it. -/
theorem markedAll_closed (tag : OpenPassage) (current : List Passage) (closing : Option String) :
    markedAll (Passage.tag tag.raw tag.opening current.reverse closing :: tag.before).reverse =
      markedAll tag.before.reverse ++ [(.opening tag.raw tag.opening, true)] ++
        markedAll current.reverse ++
          (closingToken tag.opening.name closing).map fun token => (token, false) := by
  rw [markedAll_reverse_cons, Passage.marked]
  simp only [List.append_assoc, List.cons_append, List.nil_append]

theorem marked_closeThrough (raw name : String) {stack : List OpenPassage}
    {current : List Passage} (hopen : stack.any (·.opening.name == name) = true) :
    (closeThrough raw name current stack).marked =
      markedOpen stack ++ markedAll current.reverse ++ [(.closing raw name, false)] := by
  induction stack generalizing current with
  | nil => cases hopen
  | cons tag stack ih =>
    rw [closeThrough]
    split
    case isTrue hname =>
      rw [marked, markedAll_closed, markedOpen, hname]
      simp only [closingToken, Option.map_some, Option.toList_some, List.map_singleton,
        List.append_assoc]
    case isFalse hname =>
      have hrest : stack.any (·.opening.name == name) = true := by
        rw [List.any_cons, beq_eq_false_iff_ne.2 hname, Bool.false_or] at hopen
        exact hopen
      rw [ih hrest, markedAll_closed, markedOpen]
      simp only [closingToken, Option.map_none, Option.toList_none, List.map_nil,
        List.append_nil, List.append_assoc]

/-- **One token** is accounted for, whatever is made of it. -/
theorem marked_step (draft : Draft) {token : Token} {mark : Bool}
    (hmark : mark = true → token.isOpening = true) :
    (draft.step token mark).marked = draft.marked ++ [(token, mark)] := by
  cases token with
  | opening raw opening =>
    rw [step]
    cases mark with
    | true => exact draft.marked_push raw opening
    | false => exact draft.marked_addToken _
  | closing raw name =>
    cases mark with
    | true => cases hmark rfl
    | false =>
      rw [step]
      split
      case isTrue hopen => exact marked_closeThrough raw name hopen
      case isFalse => exact draft.marked_addToken _
  | text raw =>
    cases mark with
    | true => cases hmark rfl
    | false => exact draft.marked_addToken _
  | malformed raw =>
    cases mark with
    | true => cases hmark rfl
    | false => exact draft.marked_addToken _

/-- **All tokens** are. -/
theorem marked_run (draft : Draft) {tokens : List (Token × Bool)}
    (hmark : ∀ p ∈ tokens, p.2 = true → p.1.isOpening = true) :
    (draft.run tokens).marked = draft.marked ++ tokens := by
  induction tokens generalizing draft with
  | nil => exact (List.append_nil _).symm
  | cons p tokens ih =>
    show ((draft.step p.1 p.2).run tokens).marked = _
    rw [ih _ fun q hq => hmark q (List.mem_cons_of_mem p hq),
      draft.marked_step (hmark p List.mem_cons_self), List.append_assoc, List.singleton_append]

theorem markedAll_closeAll (current : List Passage) (stack : List OpenPassage) :
    markedAll (closeAll current stack) = markedOpen stack ++ markedAll current.reverse := by
  induction stack generalizing current with
  | nil => rfl
  | cons tag stack ih =>
    rw [closeAll, ih, markedAll_closed, markedOpen]
    simp only [closingToken, Option.map_none, Option.toList_none, List.map_nil,
      List.append_nil, List.append_assoc]

end Draft

/-- **The tokens of a layout** are those of the text, and the openings among them that were closed
    are those that could be. -/
theorem markedAll_layout (markup : String) :
    Passage.markedAll (layout markup) = withMarks (tokens markup) := by
  have hmarks : ∀ p ∈ withMarks (tokens markup), p.2 = true → p.1.isOpening = true :=
    fun p hp => isOpening_of_mem_withMarks hp
  rw [layout, Draft.finish, Draft.markedAll_closeAll]
  exact Draft.empty.marked_run hmarks

/-! ## The forest of a layout -/

namespace Nest

theorem appendText_empty (nodes : List Node) : appendText "" nodes = nodes := by
  unfold appendText
  split
  case h_1 last rest => rw [String.append_empty]
  case h_2 => exact if_pos rfl

theorem appendText_append (text more : String) (nodes : List Node) :
    appendText (text ++ more) nodes = appendText more (appendText text nodes) := by
  by_cases htext : text = ""
  · rw [htext, String.empty_append, appendText_empty]
  · cases nodes with
    | nil =>
      have hboth : text ++ more ≠ "" := fun h => htext (String.append_eq_empty_iff.1 h).1
      simp [appendText, htext]
    | cons node nodes =>
      cases node with
      | literal last => simp [appendText, String.append_assoc]
      | tagged opening children => simp [appendText, htext]

end Nest

namespace Draft

open Passage (node nodes nodes_eq_map)

/-- An open tag of a nest. -/
def openTag (tag : OpenPassage) : OpenTag :=
  ⟨tag.opening, tag.before.map node⟩

/-- The nest that a draft keeps the tokens of. -/
def nest (draft : Draft) : Nest :=
  ⟨draft.current.map node, draft.stack.map openTag⟩

theorem nest_addToken (draft : Draft) {token : Token} (hraw : token.raw ≠ "") :
    (draft.addToken token).nest = draft.nest.addText token.raw := by
  have hcurrent : (appendToken token draft.current).map node =
      Nest.appendText token.raw (draft.current.map node) := by
    have halone : spell [token] = token.raw := String.append_empty
    cases draft.current with
    | nil => simp [appendToken, node, Nest.appendText, halone, hraw]
    | cons passage passages =>
      cases passage with
      | text tokens => simp [appendToken, node, Nest.appendText, spell_append, halone]
      | tag raw opening inside closing =>
        simp [appendToken, node, Nest.appendText, halone, hraw]
  exact congrArg (fun current => (⟨current, draft.stack.map openTag⟩ : Nest)) hcurrent

theorem nest_push (draft : Draft) (raw : String) (opening : Opening) :
    (draft.push raw opening).nest = draft.nest.push opening := rfl

theorem isOpen_nest (draft : Draft) (name : String) : draft.nest.isOpen name = draft.isOpen name :=
  List.any_map

theorem nest_closeThrough (raw name : String) (current : List Passage)
    (stack : List OpenPassage) :
    (closeThrough raw name current stack).nest =
      Nest.closeThrough name (current.map node) (stack.map openTag) := by
  induction stack generalizing current with
  | nil => rfl
  | cons tag stack ih =>
    rw [closeThrough, List.map_cons, Nest.closeThrough]
    have hclosed (closing : Option String) :
        (Passage.tag tag.raw tag.opening current.reverse closing :: tag.before).map node =
          .tagged tag.opening (current.map node).reverse :: tag.before.map node := by
      rw [List.map_cons, node, nodes_eq_map, List.map_reverse]
    by_cases hname : tag.opening.name = name
    · rw [if_pos hname, if_pos (show (openTag tag).opening.name = name from hname)]
      exact congrArg (fun current => (⟨current, stack.map openTag⟩ : Nest)) (hclosed (some raw))
    · rw [if_neg hname, if_neg (show ¬(openTag tag).opening.name = name from hname), ih,
        hclosed none]
      rfl

/-- **One token**, if the limit leaves room for it. -/
theorem nest_step (draft : Draft) {token : Token} (mark : Bool) {limit : Nat}
    (hraw : token.raw ≠ "") (hroom : token.isOpening = true → draft.stack.length < limit) :
    (draft.step token mark).nest = draft.nest.step limit token mark := by
  cases token with
  | opening raw opening =>
    have hlength : draft.nest.stack.length < limit := by
      rw [nest, List.length_map]
      exact hroom rfl
    cases mark with
    | true =>
      rw [step, Nest.step, if_pos rfl, if_pos (by simp [hlength])]
      exact draft.nest_push raw opening
    | false => exact draft.nest_addToken hraw
  | closing raw name =>
    rw [step, Nest.step, isOpen_nest]
    split
    case isTrue => exact nest_closeThrough raw name draft.current draft.stack
    case isFalse => exact draft.nest_addToken hraw
  | text raw => exact draft.nest_addToken hraw
  | malformed raw => exact draft.nest_addToken hraw

theorem length_closeThrough_le (raw name : String) (current : List Passage)
    (stack : List OpenPassage) :
    (closeThrough raw name current stack).stack.length ≤ stack.length := by
  induction stack generalizing current with
  | nil => exact Nat.le_refl _
  | cons tag stack ih =>
    rw [closeThrough]
    split
    case isTrue => exact Nat.le_succ _
    case isFalse => exact Nat.le_trans (ih _) (Nat.le_succ _)

/-- Only an opening makes the draft deeper. -/
theorem length_step_le (draft : Draft) (token : Token) (mark : Bool) :
    (draft.step token mark).stack.length ≤
      draft.stack.length + if token.isOpening then 1 else 0 := by
  cases token with
  | opening raw opening =>
    cases mark with
    | true => exact Nat.le_refl _
    | false => exact Nat.le_succ _
  | closing raw name =>
    rw [step]
    split
    case isTrue => exact length_closeThrough_le raw name draft.current draft.stack
    case isFalse => exact Nat.le_refl _
  | text raw => exact Nat.le_refl _
  | malformed raw => exact Nat.le_refl _

/-- **All tokens**, if the limit leaves room for all openings among them. -/
theorem nest_run (draft : Draft) {tokens : List (Token × Bool)} {limit : Nat}
    (hraw : ∀ p ∈ tokens, p.1.raw ≠ "")
    (hroom : draft.stack.length + tokens.countP (·.1.isOpening) ≤ limit) :
    (draft.run tokens).nest = draft.nest.run limit tokens := by
  induction tokens generalizing draft with
  | nil => rfl
  | cons p tokens ih =>
    have hlength := draft.length_step_le p.1 p.2
    rw [List.countP_cons] at hroom
    have hstep : (draft.step p.1 p.2).nest = draft.nest.step limit p.1 p.2 := by
      refine draft.nest_step p.2 (hraw p List.mem_cons_self) fun hopening => ?_
      rw [if_pos hopening] at hroom
      omega
    show ((draft.step p.1 p.2).run tokens).nest = Nest.run limit (draft.nest.step limit p.1 p.2) tokens
    rw [← hstep]
    exact ih _ (fun q hq => hraw q (List.mem_cons_of_mem p hq)) (by omega)

theorem nodes_closeAll (current : List Passage) (stack : List OpenPassage) :
    nodes (closeAll current stack) = Nest.closeAll (current.map node) (stack.map openTag) := by
  induction stack generalizing current with
  | nil => rw [closeAll, nodes_eq_map, List.map_reverse]; rfl
  | cons tag stack ih =>
    rw [closeAll, ih, List.map_cons, List.map_cons, Nest.closeAll, node, nodes_eq_map,
      List.map_reverse]
    rfl

end Draft

theorem raw_ne_empty_of_mem_withMarks {markup : String} {p : Token × Bool}
    (h : p ∈ withMarks (tokens markup)) : p.1.raw ≠ "" := by
  have hmem := List.mem_map_of_mem (f := Prod.fst) h
  rw [map_fst_withMarks] at hmem
  exact raw_ne_empty hmem

/-- **Without its tokens a layout is what the text reads as**, if no tag can lie too deep. -/
theorem nodes_layout {markup : String} {limit : Nat}
    (hlimit : (tokens markup).countP Token.isOpening ≤ limit) :
    Passage.nodes (layout markup) = parse limit markup := by
  have hraw : ∀ p ∈ withMarks (tokens markup), p.1.raw ≠ "" :=
    fun p hp => raw_ne_empty_of_mem_withMarks hp
  have hcount : (withMarks (tokens markup)).countP (·.1.isOpening) =
      (tokens markup).countP Token.isOpening := by
    conv => rhs; rw [← map_fst_withMarks (tokens markup), List.countP_map]
    rfl
  have hroom : Draft.empty.stack.length + (withMarks (tokens markup)).countP (·.1.isOpening) ≤
      limit := by
    rw [hcount, show Draft.empty.stack.length = 0 from rfl, Nat.zero_add]
    exact hlimit
  rw [layout, Draft.finish, Draft.nodes_closeAll, parse, nestTokens, zip_closable]
  exact congrArg Nest.finish (Draft.empty.nest_run hraw hroom)

end Markup
end BracketMark
