import BracketMark.Markup.Closable

/-!
# What is free to the left of a token

The search for closable openings keeps a dictionary of counts.  All that later steps see of
it are the counts, so this module gives them as a function on the token list, `surplus`, with
one equation for each kind of token, and reads the marks off it (`closable_cons`,
`zip_closable`).  What is cut off behind some tokens can only take free closings from them
(`surplus_le_append`).

Reading from the right is a saving only.  A closing is free for an opening exactly if a counter of
the open tags of its name, started at the opening, comes down to zero (`closable_iff_count`).
-/

namespace BracketMark
namespace Markup

/-- How many closings of a name are free to the left of the tokens. -/
def surplus (tokens : List Token) (name : String) : Nat :=
  (closableFrom tokens).2.count name

def Token.isOpening : Token → Bool
  | .opening _ _ => true
  | _ => false

/-- Whether an opening tag stands here and can be closed by the tokens after it. -/
def Token.closableBefore : Token → List Token → Bool
  | .opening _ tag, rest => decide (0 < surplus rest tag.name)
  | _, _ => false

theorem count_insert (free : Free) (key name : String) (n : Nat) :
    Free.count (free.insert key n) name = if name = key then n else free.count name := by
  unfold Free.count
  rw [Dict.get?_insert]
  split
  · rfl
  · rfl

theorem surplus_cons_opening (raw : String) (tag : Opening) (rest : List Token) (name : String) :
    surplus (.opening raw tag :: rest) name =
      if name = tag.name then surplus rest tag.name - 1 else surplus rest name :=
  count_insert ..

theorem surplus_cons_closing (raw closed : String) (rest : List Token) (name : String) :
    surplus (.closing raw closed :: rest) name =
      if name = closed then surplus rest closed + 1 else surplus rest name :=
  count_insert ..

/-- The marks of a token list, from the left. -/
theorem closable_cons (token : Token) (rest : List Token) :
    closable (token :: rest) = token.closableBefore rest :: closable rest := by
  cases token with
  | opening raw tag => rfl
  | closing raw name => rfl
  | text raw => rfl
  | malformed raw => rfl

/-- Each token with its mark. -/
def withMarks : List Token → List (Token × Bool)
  | [] => []
  | token :: rest => (token, token.closableBefore rest) :: withMarks rest

theorem zip_closable (tokens : List Token) : tokens.zip (closable tokens) = withMarks tokens := by
  induction tokens with
  | nil => rfl
  | cons token rest ih => rw [closable_cons, List.zip_cons_cons, ih, withMarks]

theorem map_fst_withMarks (tokens : List Token) : (withMarks tokens).map Prod.fst = tokens := by
  induction tokens with
  | nil => rfl
  | cons token rest ih => rw [withMarks, List.map_cons, ih]

/-- The marks of tokens that others follow. -/
def marksBefore : List Token → List Token → List (Token × Bool)
  | [], _ => []
  | token :: before, after =>
    (token, token.closableBefore (before ++ after)) :: marksBefore before after

theorem withMarks_append (before after : List Token) :
    withMarks (before ++ after) = marksBefore before after ++ withMarks after := by
  induction before with
  | nil => rfl
  | cons token before ih => rw [List.cons_append, withMarks, ih, marksBefore, List.cons_append]

theorem marksBefore_append (before middle after : List Token) :
    marksBefore (before ++ middle) after =
      marksBefore before (middle ++ after) ++ marksBefore middle after := by
  induction before with
  | nil => rfl
  | cons token before ih =>
    rw [List.cons_append, marksBefore, marksBefore, ih, List.append_assoc, List.cons_append]

/-- Only openings are marked. -/
theorem isOpening_of_closableBefore {token : Token} {rest : List Token}
    (h : token.closableBefore rest = true) : token.isOpening = true := by
  cases token with
  | opening raw tag => rfl
  | closing raw name => cases h
  | text raw => cases h
  | malformed raw => cases h

theorem isOpening_of_mem_withMarks {tokens : List Token} {p : Token × Bool}
    (hmem : p ∈ withMarks tokens) (hmark : p.2 = true) : p.1.isOpening = true := by
  induction tokens with
  | nil => cases hmem
  | cons token rest ih =>
    rcases List.mem_cons.1 hmem with rfl | hmem
    · exact isOpening_of_closableBefore hmark
    · exact ih hmem

/-- Without what follows them, tokens leave no more closings free. -/
theorem surplus_le_append (tokens more : List Token) (name : String) :
    surplus tokens name ≤ surplus (tokens ++ more) name := by
  induction tokens generalizing name with
  | nil => exact Nat.zero_le _
  | cons token rest ih =>
    cases token with
    | text raw => exact ih name
    | malformed raw => exact ih name
    | opening raw tag =>
      have htag := ih tag.name
      have hname := ih name
      rw [List.cons_append, surplus_cons_opening, surplus_cons_opening]
      split <;> omega
    | closing raw closed =>
      have hclosed := ih closed
      have hname := ih name
      rw [List.cons_append, surplus_cons_closing, surplus_cons_closing]
      split <;> omega

/-! ## Counting forward -/

def Token.opens (name : String) : Token → Bool
  | .opening _ tag => tag.name == name
  | _ => false

def Token.closes (name : String) : Token → Bool
  | .closing _ closed => closed == name
  | _ => false

/-- A token does not open and close at once. -/
theorem closes_of_opens {token : Token} {name : String} (h : token.opens name = true) :
    token.closes name = false := by
  cases token with
  | opening raw tag => rfl
  | text raw => rfl
  | malformed raw => rfl
  | closing raw closed => cases h

/-- **One token further to the left**: an opening of the name takes a free closing, a closing gives
    one, and nothing else matters. -/
theorem lt_surplus_cons_iff {token : Token} {rest : List Token} {name : String} {n : Nat} :
    n < surplus (token :: rest) name ↔
      if token.opens name then n + 1 < surplus rest name
      else if token.closes name then n = 0 ∨ n - 1 < surplus rest name
      else n < surplus rest name := by
  cases token with
  | text raw => exact Iff.rfl
  | malformed raw => exact Iff.rfl
  | opening raw tag =>
    rw [surplus_cons_opening]
    by_cases hname : name = tag.name
    · simp only [Token.opens, hname, beq_self_eq_true, if_true]
      omega
    · simp [Token.opens, Token.closes, hname, Ne.symm hname]
  | closing raw closed =>
    rw [surplus_cons_closing]
    by_cases hname : name = closed
    · simp only [Token.opens, Token.closes, hname, beq_self_eq_true, Bool.false_eq_true, if_true,
        if_false]
      omega
    · simp [Token.opens, Token.closes, hname, Ne.symm hname]

/-- **What is free, read from the left**: more than `n` closings are free if somewhere further on
    the closings outnumber the openings by more than `n`. -/
theorem lt_surplus_iff {tokens : List Token} {name : String} {n : Nat} :
    n < surplus tokens name ↔ ∃ front, front <+: tokens ∧
      front.countP (Token.opens name) + n < front.countP (Token.closes name) := by
  induction tokens generalizing n with
  | nil =>
    refine iff_of_false (Nat.not_lt_zero n) ?_
    rintro ⟨front, hfront, hcount⟩
    rw [List.prefix_nil.1 hfront] at hcount
    exact Nat.not_lt_zero _ hcount
  | cons token rest ih =>
    have hfronts : (∃ front, front <+: token :: rest ∧
        front.countP (Token.opens name) + n < front.countP (Token.closes name)) ↔
          ∃ front, front <+: rest ∧ (token :: front).countP (Token.opens name) + n <
            (token :: front).countP (Token.closes name) := by
      constructor
      · rintro ⟨front, hfront, hcount⟩
        -- an empty front has no closings, so the front begins with the token
        rcases List.prefix_cons_iff.1 hfront with rfl | ⟨front', rfl, hfront'⟩
        · exact absurd hcount (Nat.not_lt_zero _)
        · exact ⟨front', hfront', hcount⟩
      · rintro ⟨front, hfront, hcount⟩
        exact ⟨token :: front, List.cons_prefix_cons.2 ⟨rfl, hfront⟩, hcount⟩
    rw [hfronts, lt_surplus_cons_iff]
    simp only [List.countP_cons]
    split
    case isTrue hopens => simp [ih, closes_of_opens hopens, Nat.add_assoc, Nat.add_comm 1 n]
    case isFalse =>
      split
      case isTrue =>
        cases n with
        | zero => exact iff_of_true (Or.inl rfl) ⟨[], List.nil_prefix, Nat.one_pos⟩
        | succ n => simp [ih, ← Nat.add_assoc]
      case isFalse => exact ih

/-! ## A counter -/

/-- A counter of the tags of a name that are open, one token further on. -/
def Token.count (name : String) (count : Int) (token : Token) : Int :=
  if token.opens name then count + 1 else if token.closes name then count - 1 else count

/-- A counter that starts above `n` comes down to zero if more than `n` closings are free. -/
theorem zero_mem_scanl_count_iff {tokens : List Token} {name : String} {n : Nat} :
    0 ∈ tokens.scanl (Token.count name) (n + 1) ↔ n < surplus tokens name := by
  induction tokens generalizing n with
  | nil =>
    refine iff_of_false ?_ (Nat.not_lt_zero n)
    rw [List.scanl_nil, List.mem_singleton]
    omega
  | cons token rest ih =>
    have hstart : (0 : Int) ≠ n + 1 := by omega
    rw [List.scanl_cons, List.mem_cons, or_iff_right hstart, lt_surplus_cons_iff, Token.count]
    split
    case isTrue => exact ih (n := n + 1)
    case isFalse =>
      split
      case isTrue =>
        rw [Int.add_sub_cancel]
        cases n with
        | zero => exact iff_of_true (List.mem_of_mem_head? List.head?_scanl) (Or.inl rfl)
        | succ n => simpa using ih (n := n)
      case isFalse => exact ih

theorem getElem?_closable (tokens : List Token) (i : Nat) :
    (closable tokens)[i]? = tokens[i]?.map (Token.closableBefore · (tokens.drop (i + 1))) := by
  induction tokens generalizing i with
  | nil => rfl
  | cons token rest ih =>
    rw [closable_cons]
    cases i with
    | zero => rfl
    | succ i => exact ih i

theorem closableBefore_iff {token : Token} {rest : List Token} :
    token.closableBefore rest = true ↔ ∃ raw tag, token = .opening raw tag ∧
      0 ∈ rest.scanl (Token.count tag.name) 1 := by
  cases token with
  | opening raw tag =>
    have hcounter : 0 ∈ rest.scanl (Token.count tag.name) 1 ↔ 0 < surplus rest tag.name :=
      zero_mem_scanl_count_iff
    rw [Token.closableBefore, decide_eq_true_iff, ← hcounter]
    refine ⟨fun h => ⟨raw, tag, rfl, h⟩, ?_⟩
    rintro ⟨_, _, htoken, h⟩
    cases htoken
    exact h
  | text raw => simp [Token.closableBefore]
  | malformed raw => simp [Token.closableBefore]
  | closing raw closed => simp [Token.closableBefore]

/-- **The marks of one pass from the right are those of a count from each opening.**  A token is
    marked exactly if it is an opening tag and a counter comes down to zero that starts at one
    behind it, goes up at each opening of its name and down at each closing.  Every other token has
    the mark `false`. -/
theorem closable_iff_count (tokens : List Token) (i : Nat) :
    let countsDown := ∃ raw tag, tokens[i]? = some (.opening raw tag) ∧
      0 ∈ (tokens.drop (i + 1)).scanl (Token.count tag.name) 1
    ((closable tokens)[i]? = some true ↔ countsDown) ∧
      ((closable tokens)[i]? = some false ↔ i < tokens.length ∧ ¬countsDown) := by
  intro countsDown
  cases htoken : tokens[i]? with
  | none =>
    have hlength : tokens.length ≤ i := List.getElem?_eq_none_iff.1 htoken
    simp [countsDown, getElem?_closable, hlength]
  | some token =>
    have hlength : i < tokens.length := (List.getElem?_eq_some_iff.1 htoken).1
    have hmark : token.closableBefore (tokens.drop (i + 1)) = true ↔ countsDown := by
      simp only [countsDown, closableBefore_iff, htoken, Option.some.injEq]
    rw [getElem?_closable, htoken, Option.map_some, Option.some_inj, Option.some_inj,
      Bool.eq_false_iff, ne_eq, hmark]
    exact ⟨Iff.rfl, (and_iff_right hlength).symm⟩

end Markup
end BracketMark
