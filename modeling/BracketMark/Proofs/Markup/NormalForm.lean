import BracketMark.Proofs.Markup.KeywordGrammar
import BracketMark.Proofs.Markup.Print
import BracketMark.Proofs.Markup.Spelling

/-!
# The normal form of a forest that was read

The forest of a text is not just any forest.  Among siblings, at whatever level, no literal is
empty and none follows another one; every tag has a name and keys in lower case, and not both kinds
of arguments; and no tag lies deeper than the limit (`normal_parse`).

The first part is `IsNormal`, which looks the same from either end of the siblings, so that it can be
asked of the nodes that a nest has collected backwards.  A nest keeps it, and the depth, for the
place of construction and for each place around it (`NormalWithin`): one token does
(`NormalWithin.step`), hence a run does.
-/

namespace BracketMark
namespace Markup

open Text

/-! ## What opening tags say -/

theorem isKeyChar_toLower {c : Char} (h : isNameChar c = true) : isKeyChar c.toLower = true := by
  rcases toLower_cases c with ⟨hupper, hc⟩ | ⟨n, rfl⟩
  · rw [hc]
    simp only [isNameChar, Char.isAlphanum, Char.isAlpha, hupper, Bool.false_or] at h
    exact h
  · revert n
    decide

theorem isKeyStart_toLower {c : Char} (h : isNameStart c = true) :
    isKeyStart c.toLower = true := by
  rcases toLower_cases c with ⟨hupper, hc⟩ | ⟨n, rfl⟩
  · rw [hc]
    simp only [isNameStart, Char.isAlpha, hupper, Bool.false_or] at h
    exact h
  · revert n
    decide

theorem isKeyChar_of_mem_fold {cs : List Char} (h : ∀ c ∈ cs, isNameChar c = true) :
    ∀ c ∈ fold cs, isKeyChar c = true := by
  intro c hc
  obtain ⟨d, hd, rfl⟩ := List.mem_map.1 hc
  exact isKeyChar_toLower (h d hd)

theorem isPlainName_fold {cs : List Char} (h : isName cs = true) :
    isPlainName (fold cs) = true := by
  cases cs with
  | nil => cases h
  | cons c cs =>
    rw [isName, Bool.and_eq_true, List.all_eq_true] at h
    show (isKeyStart c.toLower && (fold cs).all isKeyChar) = true
    rw [Bool.and_eq_true, List.all_eq_true]
    exact ⟨isKeyStart_toLower h.1, isKeyChar_of_mem_fold h.2⟩

/-- A word over the characters of keys. -/
def IsKey (key : String) : Prop :=
  key.toList ≠ [] ∧ ∀ c ∈ key.toList, isKeyChar c = true

theorem PairForm.isKey {written : List Char} {pair : String × String}
    (h : PairForm written pair) : IsKey (foldCase pair.1) := by
  cases h with
  | mk hne hkey hvalue =>
    rw [← ofList_fold, IsKey, String.toList_ofList]
    exact ⟨by simpa [fold] using hne, isKeyChar_of_mem_fold hkey⟩

theorem isKey_of_readPairs {cs : List Char} {entries : List (String × String)}
    (h : readPairs cs = some entries) : ∀ entry ∈ entries, IsKey entry.1 := by
  obtain ⟨pairs, ⟨before, body, after, -, -, hbody, -⟩, rfl⟩ := readPairs_eq_some_iff.1 h
  intro entry hentry
  obtain ⟨pair, hmem, rfl⟩ := List.mem_map.1 hentry
  obtain ⟨written, hpair⟩ := hbody.exists_pairForm pair hmem
  exact hpair.isKey

theorem isKey_of_readKeywords {cs : List Char} {kwargs : Dict String}
    (h : readKeywords cs = some kwargs) : ∀ key ∈ kwargs.keys, IsKey key := by
  obtain ⟨pairs, hpairs, rfl⟩ := Option.map_eq_some_iff.1 h
  intro key hkey
  rw [← List.contains_iff_mem, ← Dict.isSome_get?, Dict.get?_ofList, List.lookup_isSome_iff] at hkey
  obtain ⟨p, hmem, heq⟩ := hkey
  rw [beq_iff_eq.1 heq]
  exact isKey_of_readPairs hpairs p (List.mem_reverse.1 hmem)

/-- An opening tag with a name and keys in lower case, and arguments of one kind. -/
structure Opening.IsNormal (opening : Opening) : Prop where
  name : isPlainName opening.name.toList = true
  one_kind : opening.arg = none ∨ opening.kwargs = .empty
  key : ∀ key ∈ opening.kwargs.keys, IsKey key

theorem isNormal_of_readOpening {content : List Char} {opening : Opening}
    (h : readOpening content = some opening) : opening.IsNormal := by
  rw [readOpening] at h
  split at h
  case isTrue hname =>
    have hfold : isPlainName
        (String.ofList (fold (content.takeWhile isNameChar))).toList = true := by
      rw [String.toList_ofList]
      exact isPlainName_fold hname
    have hempty : ∀ key ∈ (Dict.empty : Dict String).keys, IsKey key := by
      intro key hkey
      cases hkey
    split at h
    case h_1 =>
      cases h
      exact ⟨hfold, Or.inl rfl, hempty⟩
    case h_2 =>
      split at h
      case isTrue =>
        cases h
        exact ⟨hfold, Or.inr rfl, hempty⟩
      case isFalse =>
        split at h
        case isTrue =>
          obtain ⟨kwargs, hkwargs, rfl⟩ := Option.map_eq_some_iff.1 h
          exact ⟨hfold, Or.inl rfl, isKey_of_readKeywords hkwargs⟩
        case isFalse => cases h
  case isFalse => cases h

theorem isNormal_of_mem_scan {cs : List Char} {raw : String} {opening : Opening}
    (h : .opening raw opening ∈ scan cs) : opening.IsNormal := by
  obtain ⟨content, hcontent⟩ := exists_readOpening_of_mem h
  exact isNormal_of_readOpening hcontent

/-! ## Siblings -/

/-- Siblings without an empty literal, without two literals side by side, and with tags whose
    openings are in order. -/
structure NormalSiblings (nodes : List Node) : Prop where
  text : ∀ text, .literal text ∈ nodes → text ≠ ""
  joined : nodes.IsChain fun left right => left.literal? = none ∨ right.literal? = none
  opening : ∀ opening children, .tagged opening children ∈ nodes → opening.IsNormal

/-- `LevelOf nodes forest`: the nodes are the forest itself, or all that stands inside one of its
    tags, however deep. -/
inductive LevelOf (nodes : List Node) : Forest → Prop
  | top : LevelOf nodes nodes
  | inside {opening : Opening} {children : List Node} {forest : Forest}
      (hmem : .tagged opening children ∈ forest) (hlevel : LevelOf nodes children) :
      LevelOf nodes forest

def IsNormal (forest : Forest) : Prop :=
  ∀ nodes, LevelOf nodes forest → NormalSiblings nodes

theorem isNormal_iff {forest : Forest} : IsNormal forest ↔
    NormalSiblings forest ∧ ∀ opening children, .tagged opening children ∈ forest →
      IsNormal children := by
  constructor
  · intro h
    refine ⟨h forest .top, ?_⟩
    intro opening children hmem nodes hlevel
    exact h nodes (.inside hmem hlevel)
  · rintro ⟨hsiblings, hinside⟩ nodes hlevel
    cases hlevel with
    | top => exact hsiblings
    | inside hmem hlevel => exact hinside _ _ hmem nodes hlevel

theorem isNormal_nil : IsNormal [] :=
  isNormal_iff.2 ⟨⟨by simp, .nil, by simp⟩, by simp⟩

theorem isNormal_reverse {nodes : List Node} (h : IsNormal nodes) : IsNormal nodes.reverse := by
  obtain ⟨hsiblings, hinside⟩ := isNormal_iff.1 h
  refine isNormal_iff.2 ⟨⟨?_, ?_, ?_⟩, ?_⟩
  · simpa using hsiblings.text
  · rw [List.isChain_reverse]
    simpa only [or_comm] using hsiblings.joined
  · simpa using hsiblings.opening
  · simpa using hinside

theorem isNormal_cons {node : Node} {nodes : List Node} (hnode : IsNormal [node])
    (hnext : ∀ next ∈ nodes.head?, node.literal? = none ∨ next.literal? = none)
    (h : IsNormal nodes) : IsNormal (node :: nodes) := by
  obtain ⟨hfirst, hinner⟩ := isNormal_iff.1 hnode
  obtain ⟨hsiblings, hinside⟩ := isNormal_iff.1 h
  refine isNormal_iff.2 ⟨⟨?_, hsiblings.joined.cons hnext, ?_⟩, ?_⟩
  · intro text hmem
    rcases List.mem_cons.1 hmem with rfl | hmem
    · exact hfirst.text text List.mem_cons_self
    · exact hsiblings.text text hmem
  · intro opening children hmem
    rcases List.mem_cons.1 hmem with rfl | hmem
    · exact hfirst.opening opening children List.mem_cons_self
    · exact hsiblings.opening opening children hmem
  · intro opening children hmem
    rcases List.mem_cons.1 hmem with rfl | hmem
    · exact hinner opening children List.mem_cons_self
    · exact hinside opening children hmem

theorem isNormal_literal {text : String} (h : text ≠ "") : IsNormal [.literal text] := by
  refine isNormal_iff.2 ⟨⟨?_, .singleton _, by simp⟩, by simp⟩
  rintro _ hmem
  cases List.mem_singleton.1 hmem
  exact h

theorem isNormal_tagged {opening : Opening} (hopening : opening.IsNormal) {current before : List Node}
    (hcurrent : IsNormal current) (hbefore : IsNormal before) :
    IsNormal (.tagged opening current.reverse :: before) := by
  apply isNormal_cons _ (fun _ _ => Or.inl rfl) hbefore
  refine isNormal_iff.2 ⟨⟨by simp, .singleton _, ?_⟩, ?_⟩
  · rintro _ _ hmem
    cases List.mem_singleton.1 hmem
    exact hopening
  · rintro _ _ hmem
    cases List.mem_singleton.1 hmem
    exact isNormal_reverse hcurrent

theorem isNormal_appendText {nodes : List Node} (h : IsNormal nodes) (text : String) :
    IsNormal (Nest.appendText text nodes) := by
  unfold Nest.appendText
  split
  case h_1 last rest =>
    obtain ⟨hsiblings, hinside⟩ := isNormal_iff.1 h
    have hlast : last ≠ "" := hsiblings.text last List.mem_cons_self
    obtain ⟨hnext, hjoined⟩ := List.isChain_cons.1 hsiblings.joined
    refine isNormal_cons (isNormal_literal ?_) ?_ (isNormal_iff.2 ⟨⟨?_, hjoined, ?_⟩, ?_⟩)
    · intro hempty
      exact hlast (String.append_eq_empty_iff.1 hempty).1
    · exact fun next hmem => Or.inr ((hnext next hmem).resolve_left nofun)
    · exact fun text hmem => hsiblings.text text (List.mem_cons_of_mem _ hmem)
    · exact fun _ _ hmem => hsiblings.opening _ _ (List.mem_cons_of_mem _ hmem)
    · exact fun _ _ hmem => hinside _ _ (List.mem_cons_of_mem _ hmem)
  case h_2 hnodes =>
    split
    case isTrue => exact h
    case isFalse hne =>
      refine isNormal_cons (isNormal_literal hne) ?_ h
      intro next hnext
      cases next with
      | literal last =>
        obtain ⟨rest, hrest⟩ := List.head?_eq_some_iff.1 hnext
        exact (hnodes last rest hrest).elim
      | tagged opening children => exact Or.inr rfl

/-! ## Depth -/

theorem depthAll_append (nodes more : List Node) :
    depthAll (nodes ++ more) = max (depthAll nodes) (depthAll more) := by
  induction nodes with
  | nil => simp [depthAll]
  | cons node nodes ih => simp [depthAll, ih, max_assoc]

theorem depthAll_reverse (nodes : List Node) : depthAll nodes.reverse = depthAll nodes := by
  induction nodes with
  | nil => rfl
  | cons node nodes ih => simp [depthAll, depthAll_append, ih, max_comm]

theorem depthAll_appendText (text : String) (nodes : List Node) :
    depthAll (Nest.appendText text nodes) = depthAll nodes := by
  unfold Nest.appendText
  split
  case h_1 => simp [depthAll, Node.depth]
  case h_2 =>
    split
    case isTrue => rfl
    case isFalse => simp [depthAll, Node.depth]

/-! ## Forests under construction -/

/-- `NormalWithin limit current stack`: the nodes inside the innermost open tag and those before
    each open tag are in normal form, and none of them lies deeper than the limit. -/
inductive NormalWithin (limit : Nat) : List Node → List OpenTag → Prop
  | top {current : List Node} (hcurrent : IsNormal current) (hdepth : depthAll current ≤ limit) :
      NormalWithin limit current []
  | inside {current : List Node} {tag : OpenTag} {stack : List OpenTag}
      (hcurrent : IsNormal current) (hdepth : depthAll current + stack.length < limit)
      (hopening : tag.opening.IsNormal) (houter : NormalWithin limit tag.before stack) :
      NormalWithin limit current (tag :: stack)

def Nest.IsNormal (limit : Nat) (nest : Nest) : Prop :=
  NormalWithin limit nest.current nest.stack

namespace NormalWithin

variable {limit : Nat} {current next : List Node} {tag : OpenTag} {stack : List OpenTag}

theorem current_isNormal (h : NormalWithin limit current stack) : IsNormal current := by
  cases h with
  | top hcurrent => exact hcurrent
  | inside hcurrent => exact hcurrent

theorem depth_le (h : NormalWithin limit current stack) :
    depthAll current + stack.length ≤ limit := by
  cases h with
  | top _ hdepth => exact hdepth
  | inside _ hdepth => exact hdepth

/-- Other nodes at the place of construction. -/
theorem replace (h : NormalWithin limit current stack) (hnext : IsNormal next)
    (hdepth : depthAll next + stack.length ≤ limit) : NormalWithin limit next stack := by
  cases h with
  | top => exact .top hnext hdepth
  | inside _ _ hopening houter => exact .inside hnext hdepth hopening houter

theorem appendText (h : NormalWithin limit current stack) (text : String) :
    NormalWithin limit (Nest.appendText text current) stack := by
  apply h.replace (isNormal_appendText h.current_isNormal text)
  rw [depthAll_appendText]
  exact h.depth_le

/-- The innermost open tag closes. -/
theorem closed (h : NormalWithin limit current (tag :: stack)) :
    NormalWithin limit (.tagged tag.opening current.reverse :: tag.before) stack := by
  cases h with
  | inside hcurrent hdepth hopening houter =>
    apply houter.replace (isNormal_tagged hopening hcurrent houter.current_isNormal)
    have hbefore := houter.depth_le
    rw [depthAll, Node.depth, depthAll_reverse]
    omega

theorem closeThrough (h : NormalWithin limit current stack) (name : String) :
    (Nest.closeThrough name current stack).IsNormal limit := by
  induction stack generalizing current with
  | nil => exact h
  | cons tag stack ih =>
    rw [Nest.closeThrough]
    split
    case isTrue => exact h.closed
    case isFalse => exact ih h.closed

theorem closeAll (h : NormalWithin limit current stack) :
    IsNormal (Nest.closeAll current stack) ∧ depthAll (Nest.closeAll current stack) ≤ limit := by
  induction stack generalizing current with
  | nil =>
    rw [Nest.closeAll, depthAll_reverse]
    exact ⟨isNormal_reverse h.current_isNormal, h.depth_le⟩
  | cons tag stack ih => exact ih h.closed

end NormalWithin

namespace Nest.IsNormal

variable {limit : Nat} {nest : Nest}

theorem empty (limit : Nat) : Nest.empty.IsNormal limit :=
  .top isNormal_nil (Nat.zero_le limit)

/-- **One token**, whatever is made of it. -/
theorem step (h : nest.IsNormal limit) {token : Token}
    (htoken : ∀ raw opening, token = .opening raw opening → opening.IsNormal) (mark : Bool) :
    (nest.step limit token mark).IsNormal limit := by
  cases token with
  | text raw => exact h.appendText raw
  | malformed raw => exact h.appendText raw
  | opening raw opening =>
    rw [Nest.step]
    split
    case isTrue hroom =>
      rw [Bool.and_eq_true, decide_eq_true_eq] at hroom
      have hdepth : depthAll [] + nest.stack.length < limit := by
        rw [depthAll, Nat.zero_add]
        exact hroom.2
      exact .inside isNormal_nil hdepth (htoken raw opening rfl) h
    case isFalse => exact h.appendText raw
  | closing raw name =>
    rw [Nest.step]
    split
    case isTrue => exact h.closeThrough name
    case isFalse => exact h.appendText raw

theorem run (h : nest.IsNormal limit) {tokens : List (Token × Bool)}
    (htokens : ∀ p ∈ tokens, ∀ raw opening, p.1 = .opening raw opening → opening.IsNormal) :
    (nest.run limit tokens).IsNormal limit := by
  induction tokens generalizing nest with
  | nil => exact h
  | cons p tokens ih =>
    apply ih (h.step (htokens p List.mem_cons_self) p.2)
    exact fun q hq => htokens q (List.mem_cons_of_mem p hq)

end Nest.IsNormal

/-! ## The whole text -/

theorem isNormal_run_tokens (limit : Nat) (markup : String) :
    (Nest.empty.run limit ((tokens markup).zip (closable (tokens markup)))).IsNormal limit := by
  apply (Nest.IsNormal.empty limit).run
  rintro ⟨token, mark⟩ hp raw opening rfl
  exact isNormal_of_mem_scan (List.of_mem_zip hp).1

/-- **A text reads as a forest in normal form**, whatever the text and the limit. -/
theorem normal_parse (limit : Nat) (markup : String) :
    IsNormal (parse limit markup) ∧ depthAll (parse limit markup) ≤ limit :=
  (isNormal_run_tokens limit markup).closeAll

end Markup
end BracketMark
