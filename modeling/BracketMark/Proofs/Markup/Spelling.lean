import BracketMark.Markup.Nest
import BracketMark.Proofs.Markup.Scan

/-!
# How markup spells its forest

Nesting forgives everything, so what a text reads as does not show how it was written.  This
module says what is nevertheless true of every text: its forest accounts for all of it, in
order.  Each tagged node has an opening span and a closing span, and the literals as they are
and the tags with their spans, written one after another, are the text.  Only a node that is
the last of its siblings may lack its closing span: an outer tag closed it.

The relation is `Spells`.  Its counterpart for a nest, which is a forest under construction,
is `Nest.Reads`; one token preserves it (`Nest.Reads.step`), so a run does
(`Nest.Reads.run`), and closing what is open turns it into `Spells` (`Nest.Reads.finish`).
-/

namespace BracketMark
namespace Markup

/-! ## Spans -/

/-- A text between brackets. -/
def Bracketed (span : List Char) : Prop :=
  ∃ content, span = '[' :: content ++ [']']

/-- A bracketed text that, read alone, is an opening tag and nothing else. -/
def OpensWith (span : List Char) (opening : Opening) : Prop :=
  Bracketed span ∧ scan span = [.opening (String.ofList span) opening]

/-- A bracketed text that, read alone, is a closing tag and nothing else. -/
def ClosesWith (span : List Char) (name : String) : Prop :=
  Bracketed span ∧ scan span = [.closing (String.ofList span) name]

/-- What is not text is a bracketed span. -/
theorem mem_scan {cs : List Char} {token : Token} (h : token ∈ scan cs) :
    (∃ raw, token = .text raw) ∨ ∃ content, token = readSpan content := by
  induction cs using scan.induct with
  | case1 =>
    rw [scan] at h
    cases h
  | case2 rest size hend ih =>
    rw [scan, if_pos rfl, hend] at h
    rcases List.mem_cons.1 h with rfl | h
    · exact Or.inr ⟨_, rfl⟩
    · exact ih h
  | case3 rest size hend ih =>
    rw [scan, if_pos rfl, hend] at h
    rcases List.mem_cons.1 h with rfl | h
    · exact Or.inl ⟨_, rfl⟩
    · exact ih h
  | case4 rest hend =>
    rw [scan_unterminated hend] at h
    exact Or.inl ⟨_, List.mem_singleton.1 h⟩
  | case5 c rest hc ih =>
    rw [scan, if_neg hc] at h
    rcases List.mem_cons.1 h with rfl | h
    · exact Or.inl ⟨_, rfl⟩
    · exact ih h

theorem exists_readOpening_of_mem {cs : List Char} {raw : String} {opening : Opening}
    (h : .opening raw opening ∈ scan cs) : ∃ content, readOpening content = some opening := by
  rcases mem_scan h with ⟨_, ht⟩ | ⟨content, ht⟩
  · cases ht
  · rw [readSpan.eq_def] at ht
    split at ht
    case h_1 rest =>
      split at ht
      case h_1 => cases ht
      case h_2 => cases ht
    case h_2 =>
      split at ht
      case h_1 tag htag =>
        cases ht
        exact ⟨content, htag⟩
      case h_2 => cases ht

theorem opensWith_of_mem {cs : List Char} {raw : String} {opening : Opening}
    (h : .opening raw opening ∈ scan cs) : OpensWith raw.toList opening := by
  refine ⟨?_, ?_⟩
  · rcases mem_scan h with ⟨_, ht⟩ | ⟨content, ht⟩
    · cases ht
    · have hraw := raw_readSpan content
      rw [← ht, raw_opening] at hraw
      exact ⟨content, by rw [hraw, String.toList_ofList]⟩
  · rw [String.ofList_toList]
    exact scan_raw h

theorem closesWith_of_mem {cs : List Char} {raw name : String}
    (h : .closing raw name ∈ scan cs) : ClosesWith raw.toList name := by
  refine ⟨?_, ?_⟩
  · rcases mem_scan h with ⟨_, ht⟩ | ⟨content, ht⟩
    · cases ht
    · have hraw := raw_readSpan content
      rw [← ht, raw_closing] at hraw
      exact ⟨content, by rw [hraw, String.toList_ofList]⟩
  · rw [String.ofList_toList]
    exact scan_raw h

/-! ## Spellings of a forest -/

/-- `Spells forest text`: the forest, written out with a span for each end of each tag, is
    the text. -/
inductive Spells : Forest → List Char → Prop
  | nil : Spells [] []
  | literal {text : String} {rest : Forest} {after : List Char} (hrest : Spells rest after) :
      Spells (.literal text :: rest) (text.toList ++ after)
  | tagged {opening : Opening} {children rest : Forest} {o inner c after : List Char}
      (hopen : OpensWith o opening) (hchildren : Spells children inner)
      (hclose : ClosesWith c opening.name) (hrest : Spells rest after) :
      Spells (.tagged opening children :: rest) (o ++ inner ++ c ++ after)
  /-- A tag closed by an outer one has no closing span; it is the last of its siblings. -/
  | implicit {opening : Opening} {children : Forest} {o inner : List Char}
      (hopen : OpensWith o opening) (hchildren : Spells children inner) :
      Spells [.tagged opening children] (o ++ inner)

/-! ## Spellings of a forest under construction -/

/-- The nodes before the place of construction, the last one first.  None of them may be
    without its closing span, as they may get siblings. -/
inductive SpellsBack : List Node → List Char → Prop
  | nil : SpellsBack [] []
  | literal {text : String} {nodes : List Node} {before : List Char}
      (hnodes : SpellsBack nodes before) :
      SpellsBack (.literal text :: nodes) (before ++ text.toList)
  | tagged {opening : Opening} {children : Forest} {nodes : List Node}
      {before o inner c : List Char} (hnodes : SpellsBack nodes before)
      (hopen : OpensWith o opening) (hchildren : Spells children inner)
      (hclose : ClosesWith c opening.name) :
      SpellsBack (.tagged opening children :: nodes) (before ++ o ++ inner ++ c)

/-- The open tags, the innermost first, each with what stands before it. -/
inductive SpellsOpen : List OpenTag → List Char → Prop
  | nil : SpellsOpen [] []
  | cons {tag : OpenTag} {stack : List OpenTag} {outer before o : List Char}
      (hstack : SpellsOpen stack outer) (hbefore : SpellsBack tag.before before)
      (hopen : OpensWith o tag.opening) :
      SpellsOpen (tag :: stack) (outer ++ before ++ o)

/-- A nest accounts for the text read so far. -/
def Nest.Reads (nest : Nest) (text : List Char) : Prop :=
  ∃ outer inner, SpellsOpen nest.stack outer ∧ SpellsBack nest.current inner ∧
    text = outer ++ inner

/-- Nodes in order, from what was collected backwards and what follows it. -/
theorem SpellsBack.append {nodes : List Node} {before : List Char}
    (h : SpellsBack nodes before) {rest : Forest} {after : List Char}
    (hrest : Spells rest after) : Spells (nodes.reverse ++ rest) (before ++ after) := by
  induction h generalizing rest after with
  | nil => exact hrest
  | literal _ ih =>
    rw [List.reverse_cons, List.append_assoc, List.append_assoc]
    exact ih (.literal hrest)
  | tagged _ hopen hchildren hclose ih =>
    have := ih (.tagged hopen hchildren hclose hrest)
    rw [List.reverse_cons, List.append_assoc]
    simpa only [List.append_assoc, List.singleton_append] using this

theorem SpellsBack.spells {nodes : List Node} {text : List Char} (h : SpellsBack nodes text) :
    Spells nodes.reverse text := by
  have := h.append .nil
  rwa [List.append_nil, List.append_nil] at this

/-- A tag that an outer one closes, behind what stands before it. -/
theorem SpellsBack.implicit {tag : OpenTag} {children : Forest} {before o inner : List Char}
    (hbefore : SpellsBack tag.before before) (hopen : OpensWith o tag.opening)
    (hchildren : Spells children inner) :
    Spells (Node.tagged tag.opening children :: tag.before).reverse (before ++ o ++ inner) := by
  rw [List.reverse_cons, List.append_assoc]
  exact hbefore.append (.implicit hopen hchildren)

/-- Text joins the literal before it or becomes one. -/
theorem SpellsBack.appendText {nodes : List Node} {before : List Char}
    (h : SpellsBack nodes before) (text : String) :
    SpellsBack (Nest.appendText text nodes) (before ++ text.toList) := by
  unfold Nest.appendText
  split
  case h_1 last rest =>
    cases h with
    | literal hrest =>
      rw [List.append_assoc, ← String.toList_append]
      exact .literal hrest
  case h_2 =>
    split
    case isTrue hempty =>
      rw [hempty, String.toList_empty, List.append_nil]
      exact h
    case isFalse => exact .literal h

/-! ## One token -/

/-- Closing through an open tag of the name: what is inside it stands complete, and the
    closing span is the tag's own. -/
theorem reads_closeThrough {name : String} {c : List Char} (hclose : ClosesWith c name)
    {stack : List OpenTag} {current : List Node} {outer inner : List Char}
    (hopen : stack.any (·.opening.name == name) = true) (hstack : SpellsOpen stack outer)
    (hcurrent : Spells current.reverse inner) :
    (Nest.closeThrough name current stack).Reads (outer ++ inner ++ c) := by
  induction hstack generalizing current inner with
  | nil => cases hopen
  | @cons tag stack outer before o hstack hbefore htag ih =>
    rw [Nest.closeThrough]
    split
    case isTrue hname =>
      refine ⟨outer, before ++ o ++ inner ++ c, hstack, ?_, by simp only [List.append_assoc]⟩
      exact .tagged hbefore htag hcurrent (hname ▸ hclose)
    case isFalse hname =>
      -- an inner tag ends here without a closing span: nothing can follow it any more
      have hrest : stack.any (·.opening.name == name) = true := by
        rw [List.any_cons, beq_eq_false_iff_ne.2 hname, Bool.false_or] at hopen
        exact hopen
      have := ih hrest (hbefore.implicit htag hcurrent)
      simpa only [List.append_assoc] using this

/-- What a token has to be for a nest to account for it. -/
def Token.Stands : Token → Prop
  | .opening raw tag => OpensWith raw.toList tag
  | .closing raw name => ClosesWith raw.toList name
  | _ => True

theorem stands_of_mem {cs : List Char} {token : Token} (h : token ∈ scan cs) : token.Stands := by
  cases token with
  | opening raw opening => exact opensWith_of_mem h
  | closing raw name => exact closesWith_of_mem h
  | text raw => trivial
  | malformed raw => trivial

namespace Nest.Reads

variable {nest : Nest} {text : List Char}

theorem empty : Nest.empty.Reads [] := ⟨[], [], .nil, .nil, rfl⟩

theorem addText (h : nest.Reads text) (more : String) :
    (nest.addText more).Reads (text ++ more.toList) := by
  obtain ⟨outer, inner, hstack, hcurrent, rfl⟩ := h
  exact ⟨outer, inner ++ more.toList, hstack, hcurrent.appendText more, List.append_assoc ..⟩

theorem push (h : nest.Reads text) {o : List Char} {opening : Opening}
    (hopen : OpensWith o opening) : (nest.push opening).Reads (text ++ o) := by
  obtain ⟨outer, inner, hstack, hcurrent, rfl⟩ := h
  exact ⟨outer ++ inner ++ o, [], .cons hstack hcurrent hopen, .nil, (List.append_nil _).symm⟩

/-- **One token**, whatever is made of it. -/
theorem step (h : nest.Reads text) {token : Token} (hstands : token.Stands) (limit : Nat)
    (mark : Bool) : (nest.step limit token mark).Reads (text ++ token.raw.toList) := by
  cases token with
  | text raw => exact h.addText raw
  | malformed raw => exact h.addText raw
  | opening raw opening =>
    rw [Nest.step]
    split
    case isTrue => exact h.push hstands
    case isFalse => exact h.addText raw
  | closing raw name =>
    rw [Nest.step]
    split
    case isTrue hopen =>
      obtain ⟨outer, inner, hstack, hcurrent, rfl⟩ := h
      exact reads_closeThrough hstands hopen hstack hcurrent.spells
    case isFalse => exact h.addText raw

/-- **All tokens**, with any marks. -/
theorem run (h : nest.Reads text) (limit : Nat) {tokens : List (Token × Bool)}
    (hstands : ∀ p ∈ tokens, p.1.Stands) :
    (nest.run limit tokens).Reads (text ++ tokens.flatMap (·.1.raw.toList)) := by
  induction tokens generalizing nest text with
  | nil =>
    rw [List.flatMap_nil, List.append_nil]
    exact h
  | cons p tokens ih =>
    rw [List.flatMap_cons, ← List.append_assoc]
    refine ih (h.step (hstands p List.mem_cons_self) limit p.2) ?_
    exact fun q hq => hstands q (List.mem_cons_of_mem p hq)

/-- Closing all that is open leaves each tag the last of its siblings. -/
theorem spells_closeAll {stack : List OpenTag} {current : List Node} {outer inner : List Char}
    (hstack : SpellsOpen stack outer) (hcurrent : Spells current.reverse inner) :
    Spells (Nest.closeAll current stack) (outer ++ inner) := by
  induction hstack generalizing current inner with
  | nil => exact hcurrent
  | cons hstack hbefore htag ih =>
    have := ih (hbefore.implicit htag hcurrent)
    simpa only [Nest.closeAll, List.append_assoc] using this

theorem finish (h : nest.Reads text) : Spells nest.finish text := by
  obtain ⟨outer, inner, hstack, hcurrent, rfl⟩ := h
  exact spells_closeAll hstack hcurrent.spells

end Nest.Reads

/-! ## The whole text -/

theorem length_closable (tokens : List Token) : (closable tokens).length = tokens.length := by
  unfold closable closableFrom
  induction tokens with
  | nil => rfl
  | cons token tokens ih => simpa only [List.foldr_cons, List.length_cons] using congrArg (· + 1) ih

/-- **The forest of a text accounts for all of it, in order**, whatever the limit. -/
theorem spells_parse (limit : Nat) (markup : String) :
    Spells (parse limit markup) markup.toList := by
  have hstands : ∀ p ∈ (tokens markup).zip (closable (tokens markup)), p.1.Stands :=
    fun p hp => stands_of_mem (List.of_mem_zip hp).1
  have hrun := Nest.Reads.empty.run limit hstands
  have htext : ((tokens markup).zip (closable (tokens markup))).flatMap (·.1.raw.toList) =
      markup.toList := by
    have hmarks := length_closable (tokens markup)
    rw [← List.flatMap_map Prod.fst (fun t : Token => t.raw.toList), List.map_fst_zip (by omega)]
    exact flatMap_raw_scan markup.toList
  rw [List.nil_append, htext] at hrun
  exact hrun.finish

end Markup
end BracketMark
