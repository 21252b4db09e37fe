import BracketMark.Markup.Nest
import BracketMark.Proofs.Markup.Print
import BracketMark.Proofs.Markup.Surplus

/-!
# Printed forests read back

A printed forest reads back as the forest it was printed from, under any limit that is not
below its depth.  The printed text is taken through the three stages of reading: it scans
into the tokens that the forest spells (`scan_printAll`), each opening among them is closable
since what stands between an opening and its own closing is balanced (`closable_tokensAll`),
and the nest puts each node where it was (`run_tokensAll`).
-/

namespace BracketMark
namespace Markup

mutual

/-- The tokens that a node is printed as. -/
def Node.tokens : Node → List Token
  | .literal text => [.text text]
  | .tagged opening children =>
    .opening (String.ofList (printOpening opening)) opening ::
      (tokensAll children ++ [.closing (String.ofList (printClosing opening.name)) opening.name])

def tokensAll : List Node → List Token
  | [] => []
  | node :: nodes => node.tokens ++ tokensAll nodes

end

/-- The tokens of a tag, with those of its children and of its siblings set apart. -/
theorem tokensAll_tagged (opening : Opening) (children rest : Forest) (more : List Token) :
    tokensAll (.tagged opening children :: rest) ++ more =
      .opening (String.ofList (printOpening opening)) opening :: (tokensAll children ++
        .closing (String.ofList (printClosing opening.name)) opening.name ::
          (tokensAll rest ++ more)) := by
  simp [tokensAll, Node.tokens]

/-! ## Scanning -/

/-- A text that is at its end or goes on with a bracket. -/
def AtBracket (rest : List Char) : Prop :=
  rest = [] ∨ ∃ after, rest = '[' :: after

theorem atBracket_printAll {forest : Forest} {rest : List Char} (hrest : AtBracket rest)
    (hnext : ∀ text nodes, forest ≠ .literal text :: nodes) :
    AtBracket (printAll forest ++ rest) := by
  cases forest with
  | nil => exact hrest
  | cons node nodes =>
    cases node with
    | literal text => exact absurd rfl (hnext text nodes)
    | tagged opening children => exact Or.inr ⟨_, rfl⟩

theorem scan_printAll {forest : Forest} (h : Printable forest) {rest : List Char}
    (hrest : AtBracket rest) :
    scan (printAll forest ++ rest) = tokensAll forest ++ scan rest := by
  induction h generalizing rest with
  | nil => rfl
  | @literal text nodes hne htext hnext hnodes ih =>
    have hchars : text.toList ≠ [] := fun hnil => hne (String.toList_eq_nil_iff.1 hnil)
    rw [printAll, Node.print, List.append_assoc,
      scan_text hchars htext (atBracket_printAll hrest hnext), ih hrest, String.ofList_toList]
    rfl
  | @tagged opening children nodes hopening hchildren hnodes ihchildren ihnodes =>
    have hclosing : AtBracket (printClosing opening.name ++ (printAll nodes ++ rest)) :=
      Or.inr ⟨_, rfl⟩
    rw [printAll, Node.print, tokensAll_tagged]
    simp only [List.append_assoc]
    rw [scan_printOpening hopening, ihchildren hclosing, scan_printClosing hopening.name,
      ihnodes hrest]

/-! ## Closable openings -/

/-- What is printed is balanced: it takes no closing and leaves none. -/
theorem surplus_tokensAll {forest : Forest} (h : Printable forest) (rest : List Token)
    (name : String) : surplus (tokensAll forest ++ rest) name = surplus rest name := by
  induction h generalizing rest name with
  | nil => rfl
  | literal _ _ _ _ ih => exact ih rest name
  | @tagged opening children nodes _ _ _ ihchildren ihnodes =>
    rw [tokensAll_tagged, surplus_cons_opening]
    split
    case isTrue hname =>
      -- the opening takes the closing that its own tag adds
      rw [ihchildren, surplus_cons_closing, if_pos rfl, Nat.add_sub_cancel, ihnodes, hname]
    case isFalse hname => rw [ihchildren, surplus_cons_closing, if_neg hname, ihnodes]

/-- Every printed opening is closable, for its own closing is free when it is reached. -/
theorem closable_tokensAll {forest : Forest} (h : Printable forest) (rest : List Token) :
    closable (tokensAll forest ++ rest) =
      (tokensAll forest).map Token.isOpening ++ closable rest := by
  induction h generalizing rest with
  | nil => rfl
  | @literal text nodes _ _ _ _ ih =>
    show closable (.text text :: (tokensAll nodes ++ rest)) = _
    rw [closable_cons, ih]
    rfl
  | @tagged opening children nodes _ hchildren _ ihchildren ihnodes =>
    have hfree : 0 < surplus (tokensAll children ++
        .closing (String.ofList (printClosing opening.name)) opening.name ::
          (tokensAll nodes ++ rest)) opening.name := by
      rw [surplus_tokensAll hchildren, surplus_cons_closing, if_pos rfl]
      exact Nat.succ_pos _
    rw [tokensAll_tagged, closable_cons, ihchildren, closable_cons, ihnodes, Token.closableBefore,
      decide_eq_true hfree]
    simp [tokensAll, Node.tokens, Token.isOpening, Token.closableBefore]

/-! ## Nesting -/

/-- Tokens marked as if each opening were closable. -/
def marked (tokens : List Token) : List (Token × Bool) :=
  tokens.map fun token => (token, token.isOpening)

theorem marked_tagged (opening : Opening) (children rest : Forest) :
    marked (tokensAll (.tagged opening children :: rest)) =
      (.opening (String.ofList (printOpening opening)) opening, true) ::
        (marked (tokensAll children) ++
          (.closing (String.ofList (printClosing opening.name)) opening.name, false) ::
            marked (tokensAll rest)) := by
  simp [marked, tokensAll, Node.tokens, Token.isOpening]

namespace Nest

/-- Text after anything but a literal is a literal of its own. -/
theorem appendText_of_not_literal {text : String} {nodes : List Node} (hne : text ≠ "")
    (hnodes : ∀ last before, nodes ≠ .literal last :: before) :
    appendText text nodes = .literal text :: nodes := by
  unfold appendText
  split
  case h_1 last before => exact absurd rfl (hnodes last before)
  case h_2 => exact if_neg hne

/-- The closing of the innermost open tag. -/
theorem step_closing (limit : Nat) (current : List Node) (opening : Opening) (before : List Node)
    (stack : List OpenTag) (raw : String) :
    (⟨current, ⟨opening, before⟩ :: stack⟩ : Nest).step limit (.closing raw opening.name) false =
      ⟨.tagged opening current.reverse :: before, stack⟩ := by
  simp [step, isOpen, closeThrough]

/-- **The tokens of a forest build that forest** at the place of construction, if there is
    room for it and it does not run into a literal. -/
theorem run_tokensAll {forest : Forest} (h : Printable forest) {limit : Nat}
    {current : List Node} {stack : List OpenTag} (hroom : stack.length + depthAll forest ≤ limit)
    (hfront : ∀ text nodes last before, forest = .literal text :: nodes →
      current ≠ .literal last :: before) :
    Nest.run limit ⟨current, stack⟩ (marked (tokensAll forest)) =
      ⟨forest.reverse ++ current, stack⟩ := by
  induction h generalizing current stack with
  | nil => rfl
  | @literal text nodes hne htext hnext hnodes ih =>
    have hstep : Nest.step limit ⟨current, stack⟩ (.text text) false =
        ⟨.literal text :: current, stack⟩ := by
      show (⟨appendText text current, stack⟩ : Nest) = _
      rw [appendText_of_not_literal hne fun last before => hfront text nodes last before rfl]
    have hdepth : stack.length + depthAll nodes ≤ limit := by
      simpa only [depthAll, Node.depth, Nat.zero_max] using hroom
    show Nest.run limit (Nest.step limit ⟨current, stack⟩ (.text text) false)
      (marked (tokensAll nodes)) = _
    rw [hstep, ih hdepth fun more nodes' last before hnodes' => absurd hnodes' (hnext more nodes'),
      List.reverse_cons, List.append_assoc, List.singleton_append]
  | @tagged opening children nodes _ _ _ ihchildren ihnodes =>
    simp only [depthAll, Node.depth] at hroom
    have hchildren : (⟨opening, current⟩ :: stack : List OpenTag).length + depthAll children ≤
        limit := by
      rw [List.length_cons]
      omega
    have hstep : Nest.step limit ⟨current, stack⟩
        (.opening (String.ofList (printOpening opening)) opening) true =
          ⟨[], ⟨opening, current⟩ :: stack⟩ := by
      have hlt : stack.length < limit := by omega
      simp [Nest.step, hlt, push]
    rw [marked_tagged, run_cons, hstep, run_append,
      ihchildren hchildren (fun _ _ _ _ _ hnil => by cases hnil), run_cons, List.append_nil,
      step_closing, ihnodes (by omega) (fun _ _ _ _ _ hcons => by cases hcons),
      List.reverse_reverse, List.reverse_cons, List.append_assoc, List.singleton_append]

end Nest

/-! ## The whole forest -/

/-- **A printed forest reads back**, under any limit that is not below its depth. -/
theorem parse_print {forest : Forest} (h : Printable forest) {limit : Nat}
    (hdepth : depthAll forest ≤ limit) : parse limit forest.print = forest := by
  have htokens : tokens forest.print = tokensAll forest := by
    have := scan_printAll h (Or.inl rfl)
    rwa [List.append_nil, scan, List.append_nil, ← String.toList_ofList (l := printAll forest)]
      at this
  have hmarks : closable (tokensAll forest) = (tokensAll forest).map Token.isOpening := by
    have := closable_tokensAll h []
    rwa [List.append_nil, show closable [] = [] from rfl, List.append_nil] at this
  have hzip : (tokensAll forest).zip ((tokensAll forest).map Token.isOpening) =
      marked (tokensAll forest) := List.map_prod_left_eq_zip.symm
  have hrun : Nest.run limit Nest.empty (marked (tokensAll forest)) = ⟨forest.reverse, []⟩ := by
    have hroom : ([] : List OpenTag).length + depthAll forest ≤ limit := by simpa using hdepth
    have hfront : ∀ text nodes last before, forest = .literal text :: nodes →
        ([] : List Node) ≠ .literal last :: before := fun _ _ _ _ _ hnil => by cases hnil
    have := Nest.run_tokensAll h hroom hfront
    rwa [List.append_nil] at this
  rw [parse, htokens, nestTokens, hmarks, hzip, hrun]
  exact List.reverse_reverse forest

/-- A quotation whose author holds brackets, around an image whose text would close it, and
    another quotation inside it. -/
def sampleForest : Forest :=
  [.literal "a]",
    .tagged ⟨"quote", some "it's [/quote]\n", .empty⟩
      [.tagged ⟨"img", none, ⟨[("alt", "[/img] "), ("w-1", "")], by decide⟩⟩ [],
        .literal "=\"",
        .tagged ⟨"quote", some "", .empty⟩ []]]

theorem printable_sampleForest : Printable sampleForest := by
  refine .literal (by decide) (by decide) (fun _ _ h => by cases h) (.tagged ?_ ?_ .nil)
  · exact ⟨by decide, Or.inr rfl, fun _ h => by cases h; decide, by decide, by decide⟩
  · refine .tagged ?_ .nil (.literal (by decide) (by decide) (fun _ _ h => by cases h) ?_)
    · have halt : "alt".toList ≠ [] ∧ ∀ c ∈ "alt".toList, isKeyChar c = true :=
        ⟨by decide, List.all_eq_true.1 rfl⟩
      have hwidth : "w-1".toList ≠ [] ∧ ∀ c ∈ "w-1".toList, isKeyChar c = true :=
        ⟨by decide, List.all_eq_true.1 rfl⟩
      refine ⟨by decide, Or.inl rfl, (fun _ h => by cases h), ?_, by decide⟩
      exact List.forall_mem_cons.2 ⟨halt, List.forall_mem_cons.2 ⟨hwidth, fun _ h => nomatch h⟩⟩
    · refine .tagged ?_ .nil .nil
      exact ⟨by decide, Or.inr rfl, fun _ h => by cases h; decide, by decide, by decide⟩

theorem parse_print_sampleForest :
    Printable sampleForest ∧ depthAll sampleForest ≤ 2 ∧
      parse 2 sampleForest.print = sampleForest :=
  ⟨printable_sampleForest, by decide, parse_print printable_sampleForest (by decide)⟩

end Markup
end BracketMark
