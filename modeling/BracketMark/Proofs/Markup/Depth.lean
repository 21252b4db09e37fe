import Mathlib
import BracketMark.Proofs.Markup.Events
import BracketMark.Proofs.Markup.Layout

/-!
# The depth limit

What should a limit do to a text?  Leave its forest as it is without a limit, but for the tags
that lie too deep: such a tag is the text that it was read from, joined to the text around it.
This is `Passage.truncate`, on the layout of the text.

Reading under a limit does that, with one exception.  Which openings are closable is settled
before the limit is looked at, and a tag that lies too deep leaves its closing tag behind.  If a tag
of the same name is open around it, at a depth that is allowed, then the closing tag closes that
one, too early.  A layout is `clear` under a limit if it has no such tag.

A draft of the layout has its truncation too, the nest `Draft.under`.  As long as no closing tag goes
astray the steps of the draft are the steps of that nest (`Draft.under_step`).  Where the first one
does, reading leaves a tag and the truncation has a character of the closing tag; neither takes
that back, so the forests differ (`Draft.diverge_run`).  Hence `parse_eq_truncate_iff_clear`.
-/

namespace BracketMark
namespace Markup

namespace Passage

mutual

/-- The text that a passage was read from. -/
def source : Passage → String
  | .text tokens => spell tokens
  | .tag raw _ inside closing => raw ++ (sourceAll inside ++ closing.getD "")

def sourceAll : List Passage → String
  | [] => ""
  | passage :: passages => passage.source ++ sourceAll passages

end

mutual

/-- A passage as nodes behind others, the last one first, where `room` levels of tags are left. -/
def addTo (before : List Node) : Nat → Passage → List Node
  | _, .text tokens => Nest.appendText (spell tokens) before
  | 0, .tag raw opening inside closing =>
    Nest.appendText (source (.tag raw opening inside closing)) before
  | room + 1, .tag _ opening inside _ => .tagged opening (addAllTo [] room inside).reverse :: before

def addAllTo (before : List Node) (room : Nat) : List Passage → List Node
  | [] => before
  | passage :: passages => addAllTo (passage.addTo before room) room passages

end

/-- The forest with tags at most `room` deep, deeper ones as the text that they were read from. -/
def truncate (room : Nat) (passages : List Passage) : Forest :=
  (addAllTo [] room passages).reverse

mutual

/-- Whether no tag that lies too deep has a closing tag with the name of a tag around it that does
    not, where `room` levels are left and `outer` are the names of the tags around. -/
def clear : Nat → List String → Passage → Bool
  | _, _, .text _ => true
  | 0, outer, .tag _ opening inside closing =>
    (closing.isNone || !outer.contains opening.name) && clearAll 0 outer inside
  | room + 1, outer, .tag _ opening inside _ => clearAll room (opening.name :: outer) inside

def clearAll (room : Nat) (outer : List String) : List Passage → Bool
  | [] => true
  | passage :: passages => passage.clear room outer && clearAll room outer passages

end

theorem addAllTo_append (before : List Node) (room : Nat) (passages more : List Passage) :
    addAllTo before room (passages ++ more) = addAllTo (addAllTo before room passages) room more := by
  induction passages generalizing before with
  | nil => rfl
  | cons passage passages ih => exact ih _

theorem addAllTo_reverse_cons (before : List Node) (room : Nat) (passage : Passage)
    (passages : List Passage) : addAllTo before room (passage :: passages).reverse =
      passage.addTo (addAllTo before room passages.reverse) room := by
  rw [List.reverse_cons, addAllTo_append]
  rfl

theorem addTo_zero (before : List Node) (passage : Passage) :
    passage.addTo before 0 = Nest.appendText passage.source before := by
  cases passage with
  | text tokens => rfl
  | tag raw opening inside closing => rfl

theorem addAllTo_zero (before : List Node) (passages : List Passage) :
    addAllTo before 0 passages = Nest.appendText (sourceAll passages) before := by
  induction passages generalizing before with
  | nil => exact (Nest.appendText_empty before).symm
  | cons passage passages ih =>
    rw [addAllTo, ih, addTo_zero, sourceAll, Nest.appendText_append]

theorem clearAll_append (room : Nat) (outer : List String) (passages more : List Passage) :
    clearAll room outer (passages ++ more) =
      (clearAll room outer passages && clearAll room outer more) := by
  induction passages with
  | nil => rfl
  | cons passage passages ih => rw [List.cons_append, clearAll, clearAll, ih, Bool.and_assoc]

theorem clearAll_reverse_cons (room : Nat) (outer : List String) (passage : Passage)
    (passages : List Passage) : clearAll room outer (passage :: passages).reverse =
      (clearAll room outer passages.reverse && passage.clear room outer) := by
  rw [List.reverse_cons, clearAll_append, clearAll, clearAll, Bool.and_true]

end Passage

open Passage (source sourceAll addTo addAllTo truncate clear clearAll)

namespace Nest

/-- Passages behind what was read so far, the last one first. -/
def addPassages (nest : Nest) (room : Nat) (passages : List Passage) : Nest :=
  { nest with current := addAllTo nest.current room passages.reverse }

theorem addPassages_cons (nest : Nest) (room : Nat) (passage : Passage) (passages : List Passage) :
    nest.addPassages room (passage :: passages) =
      ⟨passage.addTo (nest.addPassages room passages).current room, nest.stack⟩ := by
  rw [addPassages, Passage.addAllTo_reverse_cons]
  rfl

theorem addPassages_zero (nest : Nest) (passages : List Passage) :
    nest.addPassages 0 passages = nest.addText (sourceAll passages.reverse) := by
  rw [addPassages, Passage.addAllTo_zero]
  rfl

theorem addText_addText (nest : Nest) (text more : String) :
    (nest.addText text).addText more = nest.addText (text ++ more) := by
  rw [addText, addText, addText, appendText_append]

end Nest

namespace Draft

/-! ## A draft under a limit -/

/-- The nest that passages and the open tags around them come to under a limit. -/
def within (limit : Nat) : List Passage → List OpenPassage → Nest
  | current, [] => Nest.empty.addPassages limit current
  | current, tag :: stack =>
    let outer := within limit tag.before stack
    let inner := if stack.length < limit then outer.push tag.opening else outer.addText tag.raw
    inner.addPassages (limit - (stack.length + 1)) current

def under (limit : Nat) (draft : Draft) : Nest :=
  within limit draft.current draft.stack

/-- The names of the open tags that do not lie too deep. -/
def kept (limit : Nat) : List OpenPassage → List String
  | [] => []
  | tag :: stack =>
    if stack.length < limit then tag.opening.name :: kept limit stack else kept limit stack

/-- Whether the tag that a closing tag of this name closes lies too deep. -/
def ClosesDeep (limit : Nat) (name : String) : List OpenPassage → Prop
  | [] => False
  | tag :: stack =>
    if tag.opening.name = name then limit ≤ stack.length else ClosesDeep limit name stack

/-- Whether a token closes a tag that lies too deep, while one of its name that does not is open. -/
def Miscloses (limit : Nat) (draft : Draft) : Token → Prop
  | .closing _ name => ClosesDeep limit name draft.stack ∧ name ∈ kept limit draft.stack
  | _ => False

theorem within_cons (limit : Nat) (passage : Passage) (current : List Passage)
    (stack : List OpenPassage) : within limit (passage :: current) stack =
      ⟨passage.addTo (within limit current stack).current (limit - stack.length),
        (within limit current stack).stack⟩ := by
  cases stack with
  | nil => exact Nest.addPassages_cons ..
  | cons tag stack => exact Nest.addPassages_cons ..

/-- A tag that is kept is open in the nest. -/
theorem within_of_lt {limit : Nat} (current : List Passage) {tag : OpenPassage}
    {stack : List OpenPassage} (hlength : stack.length < limit) :
    within limit current (tag :: stack) =
      ⟨addAllTo [] (limit - (stack.length + 1)) current.reverse,
        ⟨tag.opening, (within limit tag.before stack).current⟩ ::
          (within limit tag.before stack).stack⟩ := by
  rw [within, if_pos hlength]
  rfl

/-- One that lies too deep is text. -/
theorem within_of_le {limit : Nat} (current : List Passage) {tag : OpenPassage}
    {stack : List OpenPassage} (hlength : limit ≤ stack.length) :
    within limit current (tag :: stack) =
      (within limit tag.before stack).addText (tag.raw ++ sourceAll current.reverse) := by
  have hroom : limit - (stack.length + 1) = 0 := by omega
  rw [within, if_neg (Nat.not_lt.2 hlength), hroom, Nest.addPassages_zero, Nest.addText_addText]

/-- It is the same text when it is closed, but for its closing tag. -/
theorem within_closed {limit : Nat} (current : List Passage) (tag : OpenPassage)
    {stack : List OpenPassage} (closing : Option String) (hlength : limit ≤ stack.length) :
    within limit (.tag tag.raw tag.opening current.reverse closing :: tag.before) stack =
      (within limit current (tag :: stack)).addText (closing.getD "") := by
  have hroom : limit - stack.length = 0 := by omega
  rw [within_cons, hroom, Passage.addTo_zero, within_of_le current hlength, Nest.addText_addText,
    source, String.append_assoc]
  rfl

theorem within_closed_none {limit : Nat} (current : List Passage) (tag : OpenPassage)
    {stack : List OpenPassage} (hlength : limit ≤ stack.length) :
    within limit (.tag tag.raw tag.opening current.reverse none :: tag.before) stack =
      within limit current (tag :: stack) := by
  rw [within_closed current tag none hlength, Option.getD_none, Nest.addText,
    Nest.appendText_empty]

/-- A tag that is kept is a node when it is closed. -/
theorem within_tagged {limit : Nat} (current : List Passage) (tag : OpenPassage)
    {stack : List OpenPassage} (closing : Option String) (hlength : stack.length < limit) :
    within limit (.tag tag.raw tag.opening current.reverse closing :: tag.before) stack =
      ⟨.tagged tag.opening (within limit current (tag :: stack)).current.reverse ::
        (within limit tag.before stack).current, (within limit tag.before stack).stack⟩ := by
  have hroom : limit - stack.length = limit - (stack.length + 1) + 1 := by omega
  rw [within_cons, hroom, addTo, within_of_lt current hlength]

theorem length_within (limit : Nat) (current : List Passage) (stack : List OpenPassage) :
    (within limit current stack).stack.length = min limit stack.length := by
  induction stack generalizing current with
  | nil => exact (Nat.min_zero limit).symm
  | cons tag stack ih =>
    rcases Nat.lt_or_ge stack.length limit with hlength | hlength
    · rw [within_of_lt current hlength, List.length_cons, List.length_cons, ih]
      omega
    · rw [within_of_le current hlength, Nest.addText, List.length_cons, ih]
      omega

theorem isOpen_within (limit : Nat) (name : String) (current : List Passage)
    (stack : List OpenPassage) :
    (within limit current stack).isOpen name = (kept limit stack).contains name := by
  induction stack generalizing current with
  | nil => rfl
  | cons tag stack ih =>
    rcases Nat.lt_or_ge stack.length limit with hlength | hlength
    · rw [within_of_lt current hlength, kept, if_pos hlength, List.contains_cons, ← ih tag.before,
        Nest.isOpen, List.any_cons, Nest.isOpen]
      exact congrArg (· || _) (Bool.beq_comm ..)
    · rw [within_of_le current hlength, kept, if_neg (Nat.not_lt.2 hlength), ← ih tag.before]
      rfl

/-! ## One token -/

theorem under_addToken (limit : Nat) (draft : Draft) (token : Token) :
    (draft.addToken token).under limit = (draft.under limit).addText token.raw := by
  have halone : spell [token] = token.raw := String.append_empty
  rw [under, under, addToken]
  unfold appendToken
  split
  case h_1 tokens rest hcurrent =>
    rw [hcurrent, within_cons, within_cons, addTo, addTo, spell_append, halone,
      Nest.appendText_append]
    rfl
  case h_2 =>
    rw [within_cons, addTo, halone]
    rfl

theorem under_push {limit : Nat} {draft : Draft} (raw : String) (opening : Opening)
    (hlength : draft.stack.length < limit) :
    (draft.push raw opening).under limit = (draft.under limit).push opening :=
  within_of_lt [] hlength

theorem under_push_deep {limit : Nat} {draft : Draft} (raw : String) (opening : Opening)
    (hlength : limit ≤ draft.stack.length) :
    (draft.push raw opening).under limit = (draft.under limit).addText raw := by
  have hraw : raw ++ sourceAll [] = raw := String.append_empty
  rw [under, push, within_of_le [] hlength, List.reverse_nil, hraw]
  rfl

theorem length_of_closesDeep {limit : Nat} {name : String} {stack : List OpenPassage}
    (h : ClosesDeep limit name stack) : limit < stack.length := by
  induction stack with
  | nil => cases h
  | cons tag stack ih =>
    rw [ClosesDeep] at h
    rw [List.length_cons]
    split at h
    case isTrue => omega
    case isFalse => exact Nat.lt_succ_of_lt (ih h)

/-- Where a closing tag closes a tag that lies too deep, the truncation has it as text. -/
theorem under_closeThrough_deep {limit : Nat} (raw : String) {name : String}
    {stack : List OpenPassage} (current : List Passage) (h : ClosesDeep limit name stack) :
    (closeThrough raw name current stack).under limit = (within limit current stack).addText raw := by
  induction stack generalizing current with
  | nil => cases h
  | cons tag stack ih =>
    rw [ClosesDeep] at h
    rw [closeThrough]
    split
    case isTrue hname =>
      rw [if_pos hname] at h
      exact within_closed current tag (some raw) h
    case isFalse hname =>
      rw [if_neg hname] at h
      have hlength := Nat.le_of_lt (length_of_closesDeep h)
      rw [ih _ h, within_closed_none current tag hlength]

/-- Where it does not, the truncation closes what a nest closes. -/
theorem under_closeThrough {limit : Nat} (raw : String) {name : String}
    {stack : List OpenPassage} (current : List Passage) (h : ¬ClosesDeep limit name stack) :
    (closeThrough raw name current stack).under limit =
      Nest.closeThrough name (within limit current stack).current
        (within limit current stack).stack := by
  induction stack generalizing current with
  | nil => rfl
  | cons tag stack ih =>
    rw [ClosesDeep] at h
    rw [closeThrough]
    split
    case isTrue hname =>
      rw [if_pos hname] at h
      have hlength : stack.length < limit := Nat.not_le.1 h
      rw [under, within_tagged current tag (some raw) hlength, within_of_lt current hlength,
        Nest.closeThrough, if_pos hname]
    case isFalse hname =>
      rw [if_neg hname] at h
      rw [ih _ h]
      rcases Nat.lt_or_ge stack.length limit with hlength | hlength
      · rw [within_tagged current tag none hlength, within_of_lt current hlength,
          Nest.closeThrough, if_neg hname]
      · rw [within_closed_none current tag hlength]

/-- A closing tag that closes anything closes a tag that lies too deep, or the nest has one that it
    fits. -/
theorem any_iff_closesDeep_or_mem_kept {limit : Nat} {name : String} {stack : List OpenPassage} :
    stack.any (·.opening.name == name) = true ↔
      ClosesDeep limit name stack ∨ name ∈ kept limit stack := by
  induction stack with
  | nil => simp [ClosesDeep, kept]
  | cons tag stack ih =>
    rw [List.any_cons, Bool.or_eq_true, beq_iff_eq, ih, ClosesDeep, kept]
    by_cases hname : tag.opening.name = name
    · rw [if_pos hname]
      rcases Nat.lt_or_ge stack.length limit with hlength | hlength
      · simp [hname, hlength]
      · simp [hname, hlength]
    · rw [if_neg hname]
      split
      case isTrue => simp [hname, Ne.symm hname]
      case isFalse => simp [hname]

/-- **One token**, if it is no closing tag that goes astray. -/
theorem under_step {limit : Nat} {draft : Draft} {token : Token} (mark : Bool)
    (h : ¬draft.Miscloses limit token) :
    (draft.step token mark).under limit = (draft.under limit).step limit token mark := by
  have haddText := under_addToken limit draft token
  cases token with
  | text raw => exact haddText
  | malformed raw => exact haddText
  | opening raw opening =>
    have hlength : (draft.under limit).stack.length = min limit draft.stack.length :=
      length_within ..
    cases mark with
    | false => exact haddText
    | true =>
      rw [step, if_pos rfl, Nest.step, hlength, Bool.true_and]
      rcases Nat.lt_or_ge draft.stack.length limit with hroom | hroom
      · rw [under_push raw opening hroom, if_pos (decide_eq_true (by omega))]
      · rw [under_push_deep raw opening hroom, if_neg (by simp [hroom])]
  | closing raw name =>
    have hopen : (draft.under limit).isOpen name = (kept limit draft.stack).contains name :=
      isOpen_within ..
    rw [step, Nest.step, hopen, isOpen]
    have hany : draft.stack.any (·.opening.name == name) = true ↔
        ClosesDeep limit name draft.stack ∨ name ∈ kept limit draft.stack :=
      any_iff_closesDeep_or_mem_kept
    by_cases hdeep : ClosesDeep limit name draft.stack
    · have hkept : name ∉ kept limit draft.stack := fun hmem => h ⟨hdeep, hmem⟩
      rw [if_pos (hany.2 (Or.inl hdeep)), under_closeThrough_deep raw _ hdeep,
        if_neg (by simpa using hkept)]
      rfl
    · by_cases hmem : name ∈ kept limit draft.stack
      · rw [if_pos (hany.2 (Or.inr hmem)), under_closeThrough raw _ hdeep,
          if_pos (by simpa using hmem)]
        rfl
      · have hnone : ¬draft.stack.any (·.opening.name == name) = true :=
          fun hopen => (hany.1 hopen).elim hdeep hmem
        rw [if_neg hnone, if_neg (by simpa using hmem)]
        exact haddText

/-- Where a closing tag goes astray, the truncation has it as text. -/
theorem under_step_of_miscloses {limit : Nat} {draft : Draft} {token : Token} (mark : Bool)
    (h : draft.Miscloses limit token) :
    (draft.step token mark).under limit = (draft.under limit).addText token.raw := by
  cases token with
  | text raw => cases h
  | malformed raw => cases h
  | opening raw opening => cases h
  | closing raw name =>
    rw [step, isOpen, if_pos (any_iff_closesDeep_or_mem_kept.2 (Or.inl h.1))]
    exact under_closeThrough_deep raw _ h.1

/-- Reading leaves a tag there. -/
theorem events_step_of_miscloses {limit : Nat} {draft : Draft} {token : Token} (mark : Bool)
    (h : draft.Miscloses limit token) :
    (draft.under limit).events ++ [.leave] <+:
      ((draft.under limit).step limit token mark).events := by
  cases token with
  | text raw => cases h
  | malformed raw => cases h
  | opening raw opening => cases h
  | closing raw name =>
    have hopen : (draft.under limit).isOpen name = true := by
      rw [under, isOpen_within]
      simpa using h.2
    rw [Nest.step, if_pos hopen]
    exact Nest.events_closeThrough hopen

theorem events_under_step (limit : Nat) (draft : Draft) (token : Token) (mark : Bool) :
    (draft.under limit).events <+: ((draft.step token mark).under limit).events := by
  by_cases h : draft.Miscloses limit token
  · rw [under_step_of_miscloses mark h, Nest.events_addText]
    exact List.prefix_append _ _
  · rw [under_step mark h]
    exact Nest.events_step _ limit token mark

theorem events_under_run (limit : Nat) (draft : Draft) (tokens : List (Token × Bool)) :
    (draft.under limit).events <+: ((draft.run tokens).under limit).events := by
  induction tokens generalizing draft with
  | nil => exact List.prefix_rfl
  | cons p tokens ih => exact (events_under_step limit draft p.1 p.2).trans (ih _)

/-! ## Clear drafts

The condition on a layout, for one under construction.  What stands before an open tag is judged at
the depth of that tag, and the names around it are those of the open tags that were kept.
-/

def ClearWithin (limit : Nat) : List Passage → List OpenPassage → Prop
  | current, [] => clearAll limit [] current.reverse = true
  | current, tag :: stack => ClearWithin limit tag.before stack ∧
    clearAll (limit - (stack.length + 1)) (kept limit (tag :: stack)) current.reverse = true

def Clear (limit : Nat) (draft : Draft) : Prop :=
  ClearWithin limit draft.current draft.stack

theorem clearWithin_cons {limit : Nat} {passage : Passage} {current : List Passage}
    {stack : List OpenPassage} : ClearWithin limit (passage :: current) stack ↔
      ClearWithin limit current stack ∧
        passage.clear (limit - stack.length) (kept limit stack) = true := by
  cases stack with
  | nil =>
    rw [ClearWithin, ClearWithin, Passage.clearAll_reverse_cons, Bool.and_eq_true]
    exact Iff.rfl
  | cons tag stack =>
    rw [ClearWithin, ClearWithin, Passage.clearAll_reverse_cons, Bool.and_eq_true, and_assoc]
    exact Iff.rfl

/-- A tag that is closed: its closing tag must not go astray. -/
theorem clearWithin_closed {limit : Nat} {current : List Passage} {tag : OpenPassage}
    {stack : List OpenPassage} (closing : Option String) :
    ClearWithin limit (.tag tag.raw tag.opening current.reverse closing :: tag.before) stack ↔
      ClearWithin limit current (tag :: stack) ∧
        ¬(limit ≤ stack.length ∧ closing.isSome ∧ tag.opening.name ∈ kept limit stack) := by
  rw [clearWithin_cons, ClearWithin, and_assoc, kept]
  refine and_congr_right fun _ => ?_
  -- `clear` counts the levels that are left, the stack those that are open
  rcases Nat.lt_or_ge stack.length limit with hlength | hlength
  · have hroom : limit - stack.length = limit - (stack.length + 1) + 1 := by omega
    rw [hroom, clear, if_pos hlength]
    exact (and_iff_left fun h => Nat.not_le.2 hlength h.1).symm
  · have hroom : limit - stack.length = 0 := by omega
    have hinner : limit - (stack.length + 1) = 0 := by omega
    rw [hroom, hinner, clear, if_neg (Nat.not_lt.2 hlength)]
    cases closing with
    | none => simp
    | some raw => simp [hlength, and_comm]

theorem clearWithin_closeThrough {limit : Nat} {raw name : String} {current : List Passage}
    {stack : List OpenPassage} :
    (closeThrough raw name current stack).Clear limit ↔
      ClearWithin limit current stack ∧
        ¬(ClosesDeep limit name stack ∧ name ∈ kept limit stack) := by
  induction stack generalizing current with
  | nil => exact (and_iff_left fun h => h.1).symm
  | cons tag stack ih =>
    rw [closeThrough, ClosesDeep]
    split
    case isTrue hname =>
      rw [Clear, clearWithin_closed, hname]
      refine and_congr_right fun _ => not_congr ?_
      rw [kept]
      constructor
      · rintro ⟨hlength, -, hmem⟩
        rw [if_neg (Nat.not_lt.2 hlength)]
        exact ⟨hlength, hmem⟩
      · rintro ⟨hlength, hmem⟩
        rw [if_neg (Nat.not_lt.2 hlength)] at hmem
        exact ⟨hlength, rfl, hmem⟩
    case isFalse hname =>
      have hkept : name ∈ kept limit (tag :: stack) ↔ name ∈ kept limit stack := by
        rw [kept]
        split
        case isTrue => simp [Ne.symm hname]
        case isFalse => exact Iff.rfl
      rw [ih, clearWithin_closed, hkept]
      simp

theorem clear_addToken (limit : Nat) (draft : Draft) (token : Token) :
    (draft.addToken token).Clear limit ↔ draft.Clear limit := by
  rw [Clear, Clear, addToken]
  unfold appendToken
  split
  case h_1 tokens rest hcurrent => rw [hcurrent, clearWithin_cons, clearWithin_cons, clear, clear]
  case h_2 => exact clearWithin_cons.trans (and_iff_left rfl)

/-- **One token** leaves a draft clear unless it goes astray. -/
theorem clear_step (limit : Nat) (draft : Draft) (token : Token) (mark : Bool) :
    (draft.step token mark).Clear limit ↔ draft.Clear limit ∧ ¬draft.Miscloses limit token := by
  have haddToken := clear_addToken limit draft token
  cases token with
  | text raw => exact haddToken.trans (and_iff_left id).symm
  | malformed raw => exact haddToken.trans (and_iff_left id).symm
  | opening raw opening =>
    cases mark with
    | false => exact haddToken.trans (and_iff_left id).symm
    | true => exact (and_iff_left rfl).trans (and_iff_left id).symm
  | closing raw name =>
    rw [step]
    split
    case isTrue => exact clearWithin_closeThrough
    case isFalse hopen =>
      refine haddToken.trans (and_iff_left fun h => hopen ?_).symm
      exact any_iff_closesDeep_or_mem_kept.2 (Or.inr h.2)

/-- A draft does not become clear again. -/
theorem clear_of_run {limit : Nat} {draft : Draft} {tokens : List (Token × Bool)}
    (h : (draft.run tokens).Clear limit) : draft.Clear limit := by
  induction tokens generalizing draft with
  | nil => exact h
  | cons p tokens ih => exact ((clear_step limit draft p.1 p.2).1 (ih h)).1

/-- **All tokens**, if the draft stays clear. -/
theorem under_run {limit : Nat} {draft : Draft} {tokens : List (Token × Bool)}
    (h : (draft.run tokens).Clear limit) :
    (draft.run tokens).under limit = (draft.under limit).run limit tokens := by
  induction tokens generalizing draft with
  | nil => rfl
  | cons p tokens ih =>
    have hfirst := ((clear_step limit draft p.1 p.2).1 (clear_of_run h)).2
    show ((draft.step p.1 p.2).run tokens).under limit =
      Nest.run limit ((draft.under limit).step limit p.1 p.2) tokens
    rw [← under_step p.2 hfirst]
    exact ih h

/-- **All tokens**, if it does not: at the first closing tag that goes astray reading leaves a tag,
    and the truncation has a character. -/
theorem diverge_run {limit : Nat} {draft : Draft} {tokens : List (Token × Bool)}
    (hraw : ∀ p ∈ tokens, p.1.raw ≠ "") (hbefore : draft.Clear limit)
    (h : ¬(draft.run tokens).Clear limit) :
    ∃ events c, events ++ [.leave] <+: ((draft.under limit).run limit tokens).events ∧
      events ++ [.char c] <+: ((draft.run tokens).under limit).events := by
  induction tokens generalizing draft with
  | nil => exact absurd hbefore h
  | cons p tokens ih =>
    by_cases hfirst : draft.Miscloses limit p.1
    · -- here they part, and what follows takes neither event back
      obtain ⟨c, cs, hcs⟩ : ∃ c cs, p.1.raw.toList = c :: cs := by
        refine List.exists_cons_of_ne_nil fun hempty => hraw p List.mem_cons_self ?_
        exact String.toList_inj.1 hempty
      refine ⟨(draft.under limit).events, c, ?_, ?_⟩
      · exact (events_step_of_miscloses p.2 hfirst).trans (Nest.events_run _ limit tokens)
      · refine List.IsPrefix.trans ?_ (events_under_run limit (draft.step p.1 p.2) tokens)
        rw [under_step_of_miscloses p.2 hfirst, Nest.events_addText, hcs]
        exact List.prefix_append_right_inj _ |>.2 ⟨cs.map .char, rfl⟩
    · show ∃ events c, events ++ [.leave] <+:
          (Nest.run limit ((draft.under limit).step limit p.1 p.2) tokens).events ∧
        events ++ [.char c] <+: (((draft.step p.1 p.2).run tokens).under limit).events
      rw [← under_step p.2 hfirst]
      exact ih (fun q hq => hraw q (List.mem_cons_of_mem p hq))
        ((clear_step limit draft p.1 p.2).2 ⟨hbefore, hfirst⟩) h

/-! ## Finished drafts -/

theorem finish_within (limit : Nat) (current : List Passage) (stack : List OpenPassage) :
    (within limit current stack).finish = truncate limit (closeAll current stack) := by
  induction stack generalizing current with
  | nil => rfl
  | cons tag stack ih =>
    rw [closeAll, ← ih]
    rcases Nat.lt_or_ge stack.length limit with hlength | hlength
    · rw [within_tagged current tag none hlength, within_of_lt current hlength]
      rfl
    · rw [within_closed_none current tag hlength]

theorem clear_closeAll (limit : Nat) (current : List Passage) (stack : List OpenPassage) :
    clearAll limit [] (closeAll current stack) = true ↔ ClearWithin limit current stack := by
  induction stack generalizing current with
  | nil => rfl
  | cons tag stack ih =>
    rw [closeAll, ih, clearWithin_closed]
    simp

end Draft

/-! ## Reading under a limit -/

mutual

theorem Passage.source_eq_spell (passage : Passage) :
    passage.source = spell (passage.marked.map Prod.fst) := by
  match passage with
  | .text tokens =>
    have htokens : tokens.map (Prod.fst ∘ fun token => (token, false)) = tokens :=
      List.map_id tokens
    rw [source, marked, List.map_map, htokens]
  | .tag raw opening inside closing =>
    have hclosing : spell (((closingToken opening.name closing).map fun token =>
        (token, false)).map Prod.fst) = closing.getD "" := by
      cases closing with
      | none => rfl
      | some raw => exact String.append_empty
    rw [source, sourceAll_eq_spell inside, marked, List.map_cons, spell, List.map_append,
      spell_append, hclosing]
    rfl

theorem Passage.sourceAll_eq_spell (passages : List Passage) :
    sourceAll passages = spell ((markedAll passages).map Prod.fst) := by
  match passages with
  | [] => rfl
  | passage :: passages =>
    rw [sourceAll, source_eq_spell passage, sourceAll_eq_spell passages, markedAll,
      List.map_append, spell_append]

end

theorem sourceAll_layout (markup : String) : sourceAll (layout markup) = markup := by
  rw [Passage.sourceAll_eq_spell, markedAll_layout, map_fst_withMarks, spell_tokens]

/-- **What the limit does.**  The layout of a text accounts for the whole text and is what the
    text reads as without a limit.  Reading under a limit leaves it as it is but for the tags that
    lie too deep, which are the text that they were read from, exactly if none of them has a closing
    tag that fits a tag around it that does not. -/
theorem parse_eq_truncate_iff_clear (limit : Nat) (markup : String) :
    sourceAll (layout markup) = markup ∧
    (∀ free, (tokens markup).countP Token.isOpening ≤ free →
      parse free markup = Passage.nodes (layout markup)) ∧
    (parse limit markup = truncate limit (layout markup) ↔
      clearAll limit [] (layout markup) = true) := by
  refine ⟨sourceAll_layout markup, fun free hfree => (nodes_layout hfree).symm, ?_⟩
  have hraw : ∀ p ∈ withMarks (tokens markup), p.1.raw ≠ "" :=
    fun p hp => raw_ne_empty_of_mem_withMarks hp
  have hclear : clearAll limit [] (layout markup) = true ↔
      (Draft.empty.run (withMarks (tokens markup))).Clear limit :=
    Draft.clear_closeAll ..
  have htruncate : truncate limit (layout markup) =
      ((Draft.empty.run (withMarks (tokens markup))).under limit).finish :=
    (Draft.finish_within ..).symm
  rw [hclear, htruncate, parse, nestTokens, zip_closable]
  constructor
  · intro hsame
    refine Classical.byContradiction fun hnot => ?_
    have hempty : Draft.empty.Clear limit := rfl
    obtain ⟨events, c, hleave, hchar⟩ := Draft.diverge_run hraw hempty hnot
    have hleave := hleave.trans (Nest.events_finish _)
    have hchar := hchar.trans (Nest.events_finish _)
    rw [← hsame] at hchar
    exact Event.noConfusion (eq_of_common_events hleave hchar)
  · intro hclear
    rw [Draft.under_run hclear]
    rfl

/-- A tag of another name inside: the limit takes it as a whole. -/
theorem parse_eq_truncate_iff_clear_otherName :
    parse 2 "[b][i]x[/i][/b]" =
        [.tagged ⟨"b", none, .empty⟩ [.tagged ⟨"i", none, .empty⟩ [.literal "x"]]] ∧
      parse 1 "[b][i]x[/i][/b]" = [.tagged ⟨"b", none, .empty⟩ [.literal "[i]x[/i]"]] := by
  obtain ⟨-, hfree, hlimit⟩ := parse_eq_truncate_iff_clear 1 "[b][i]x[/i][/b]"
  have hcount : (tokens "[b][i]x[/i][/b]").countP Token.isOpening ≤ 2 := by cbv
  have hclear : clearAll 1 [] (layout "[b][i]x[/i][/b]") = true := by cbv
  refine ⟨(hfree 2 hcount).trans ?_, (hlimit.2 hclear).trans ?_⟩
  · cbv
  · cbv

/-- One of the same name: its closing tag closes the outer one. -/
theorem not_parse_eq_truncate_sameName :
    ¬∀ limit markup, parse limit markup = truncate limit (layout markup) := by
  intro h
  have hparse : parse 1 "[b][b]x[/b][/b]" =
      [.tagged ⟨"b", none, .empty⟩ [.literal "[b]x"], .literal "[/b]"] := by cbv
  have htruncate : truncate 1 (layout "[b][b]x[/b][/b]") =
      [.tagged ⟨"b", none, .empty⟩ [.literal "[b]x[/b]"]] := by cbv
  have hsame := h 1 "[b][b]x[/b][/b]"
  rw [hparse, htruncate] at hsame
  exact List.cons_ne_nil _ _ (List.cons.inj hsame).2

end Markup
end BracketMark
