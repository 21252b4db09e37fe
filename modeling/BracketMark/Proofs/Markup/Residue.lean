import Mathlib
import BracketMark.Proofs.Markup.Layout
import BracketMark.Proofs.Markup.NormalForm

/-!
# What stays text

A literal may hold brackets: malformed spans, openings that nothing closes, closings that close
nothing.  Read again alone, it is the same literal.  There is something to show, as the text around
a literal matters to how it is read: the search for a closing quote goes on behind it, and the
end of a text is a place where a quote may close.

Two things come together.  Cut off behind some tokens, a text has these tokens, or the first of
them and then nothing but text (`scan_cut`): where the cut changes how a bracket is read, it makes
it a bracket without an end.  And no opening in a literal is closable by what follows it in the
whole text, so none is by what follows it in the literal (`not_mark_of_cut`).
-/

namespace BracketMark
namespace Markup

open Text

/-! ## Cutting a text off -/

/-- **A text that is cut off behind the end of a span** has the same span, or one that does not
    end: the cut can let a quote close only as the last character. -/
theorem spanEndFrom_cut {mode : SpanMode} {size m : Nat} {cs more : List Char}
    (h : (spanEndFrom mode size (cs ++ more)).size? = some m) (hcut : m < size + cs.length) :
    spanEndFrom mode size cs = spanEndFrom mode size (cs ++ more) ∨
      spanEndFrom mode size cs = .unterminated := by
  induction cs generalizing mode size with
  | nil =>
    rw [List.nil_append] at h ⊢
    have hlt : m < size := hcut
    rcases le_of_spanEndFrom h with hfallback | hle
    · rw [hfallback]
      cases mode with
      | plain b => exact Or.inl rfl
      | quoted q fallback => exact Or.inl rfl
    · omega
  | cons c rest ih =>
    have hcut : m < size + 1 + rest.length := by
      rw [List.length_cons] at hcut
      omega
    cases mode with
    | plain b =>
      simp only [List.cons_append, spanEndFrom] at h ⊢
      split at h
      case h_1 =>
        split at h
        case isTrue hquote =>
          simp only [if_pos hquote]
          exact ih h hcut
        case isFalse hquote =>
          simp only [if_neg hquote]
          exact ih h hcut
      case h_2 => exact Or.inl rfl
    | quoted q fallback =>
      simp only [List.cons_append, spanEndFrom] at h ⊢
      cases rest with
      | nil =>
        by_cases hquote : (c == q) = true
        · -- the cut stands right behind a quote of the kind that is open
          exact Or.inr (by simp [hquote, closesQuote, spanEndFrom])
        · simp only [hquote, Bool.false_and] at h ⊢
          exact ih h hcut
      | cons d rest =>
        have hcloses : closesQuote (d :: rest ++ more) = closesQuote (d :: rest) := rfl
        rw [hcloses] at h ⊢
        split at h
        case isTrue hquote =>
          simp only [if_pos hquote]
          exact ih h hcut
        case isFalse hquote =>
          simp only [if_neg hquote]
          exact ih h hcut

theorem spanEnd_cut {cs more : List Char} {m : Nat} (h : (spanEnd (cs ++ more)).size? = some m)
    (hcut : m < cs.length) :
    spanEnd cs = spanEnd (cs ++ more) ∨ spanEnd cs = .unterminated :=
  spanEndFrom_cut h (by rwa [Nat.zero_add])

/-- A text that neither begins a tag nor is one. -/
def Token.IsText (token : Token) : Prop :=
  ∃ raw, token = .text raw

theorem scan_spell_append {cs : List Char} {tokens more : List Token}
    (h : scan cs = tokens ++ more) : cs = (spell tokens).toList ++ (spell more).toList := by
  rw [toList_spell, toList_spell, ← List.flatMap_append, ← h, flatMap_raw_scan]

/-- **A text that is cut off behind some of its tokens** has these tokens, or the first of them
    and then text. -/
theorem scan_cut {cs : List Char} {kept more : List Token} (h : scan cs = kept ++ more) :
    ∃ front rest, front <+: kept ∧ (∀ token ∈ rest, token.IsText) ∧
      scan (spell kept).toList = front ++ rest := by
  induction kept generalizing cs with
  | nil =>
    refine ⟨[], [], List.nil_prefix, fun token hmem => (List.not_mem_nil hmem).elim, ?_⟩
    rw [spell, String.toList_empty, scan, List.nil_append]
  | cons token kept ih =>
    obtain ⟨after, hbegins, hafter⟩ := begins_of_scan h
    obtain ⟨front, rest, hfront, hrest, hscan⟩ := ih hafter
    have hcut := scan_spell_append hafter
    -- the first token stays what it is, and the rest is cut
    have hstays (hstays : scan (spell (token :: kept)).toList =
        token :: scan (spell kept).toList) : ∃ front rest, front <+: token :: kept ∧
          (∀ token ∈ rest, token.IsText) ∧
            scan (spell (token :: kept)).toList = front ++ rest := by
      refine ⟨token :: front, rest, List.cons_prefix_cons.2 ⟨rfl, hfront⟩, hrest, ?_⟩
      rw [hstays, hscan, List.cons_append]
    -- or the bracket that it begins with has no end, and all is one text
    have htext {text : List Char} (hspell : (spell (token :: kept)).toList = '[' :: text)
        (hend : spanEnd text = .unterminated) : ∃ front rest, front <+: token :: kept ∧
          (∀ token ∈ rest, token.IsText) ∧
            scan (spell (token :: kept)).toList = front ++ rest := by
      refine ⟨[], [.text (String.ofList ('[' :: text))], List.nil_prefix, ?_, ?_⟩
      · exact List.forall_mem_singleton.2 ⟨_, rfl⟩
      · rw [hspell, scan_unterminated hend, List.nil_append]
    cases hbegins with
    | @text text after hne hbracket hat =>
      apply hstays
      rw [spell, String.toList_append, raw_text, String.toList_ofList]
      refine scan_text hne hbracket ?_
      cases hkept : (spell kept).toList with
      | nil => exact Or.inl rfl
      | cons c cs =>
        rw [hcut, hkept] at hat
        obtain ⟨rest, hrest⟩ := hat.resolve_left (List.cons_ne_nil _ _)
        exact Or.inr ⟨cs, by rw [(List.cons.inj hrest).1]⟩
    | @span content after hend =>
      have hspell : (spell (readSpan content :: kept)).toList =
          '[' :: (content ++ ']' :: (spell kept).toList) := by
        rw [spell, String.toList_append, raw_readSpan, String.toList_ofList]
        simp
      rw [hcut, ← List.cons_append, ← List.append_assoc] at hend
      have hshort : content.length < (content ++ ']' :: (spell kept).toList).length := by simp
      rcases spanEnd_cut (congrArg SpanEnd.size? hend) hshort with hsame | hnone
      · exact hstays (by rw [hspell, scan_span (hsame.trans hend)])
      · exact htext hspell hnone
    | @interrupted text after hend =>
      have hspell : (spell (Token.text (String.ofList ('[' :: text)) :: kept)).toList =
          '[' :: (text ++ (spell kept).toList) := by
        rw [spell, String.toList_append, raw_text, String.toList_ofList, List.cons_append]
      cases hkept : (spell kept).toList with
      | nil =>
        obtain ⟨before, _, hbefore, hlength, hnone⟩ := spanEnd_eq_interrupted hend
        have hbefore : text = before := (List.append_inj hbefore hlength.symm).1
        rw [hkept, List.append_nil] at hspell
        exact htext hspell (hbefore ▸ hnone)
      | cons c cs =>
        rw [hkept] at hspell hcut
        rw [hcut, ← List.append_assoc] at hend
        obtain rfl : '[' = c := (List.cons.inj hcut).1
        have hshort : text.length < (text ++ '[' :: cs).length := by simp
        rcases spanEnd_cut (congrArg SpanEnd.size? hend) hshort with hsame | hnone
        · exact hstays (by rw [hspell, scan_interrupted (hsame.trans hend), hkept])
        · exact htext hspell hnone
    | @unterminated text hend =>
      have hkept : (spell kept).toList = [] := (List.append_eq_nil_iff.1 hcut.symm).1
      refine htext ?_ hend
      rw [spell, String.toList_append, hkept, raw_text, String.toList_ofList, List.append_nil]

/-! ## Marks behind a cut -/

theorem surplus_text {rest : List Token} (hrest : ∀ token ∈ rest, token.IsText) (name : String) :
    surplus rest name = 0 := by
  induction rest with
  | nil => rfl
  | cons token rest ih =>
    obtain ⟨raw, rfl⟩ := hrest token List.mem_cons_self
    exact ih fun other hmem => hrest other (List.mem_cons_of_mem _ hmem)

/-- Text behind tokens leaves free what they leave free. -/
theorem surplus_append_text {rest : List Token} (hrest : ∀ token ∈ rest, token.IsText)
    (front : List Token) (name : String) : surplus (front ++ rest) name = surplus front name := by
  induction front generalizing name with
  | nil => rw [List.nil_append, surplus_text hrest]; rfl
  | cons token front ih =>
    cases token with
    | text raw => exact ih name
    | malformed raw => exact ih name
    | opening raw tag => rw [List.cons_append, surplus_cons_opening, surplus_cons_opening, ih, ih]
    | closing raw closed =>
      rw [List.cons_append, surplus_cons_closing, surplus_cons_closing, ih, ih]

theorem closableBefore_mono {token : Token} {rest more : List Token}
    (h : ∀ name, surplus rest name ≤ surplus more name)
    (hmark : token.closableBefore more = false) : token.closableBefore rest = false := by
  cases token with
  | opening raw tag =>
    have hname := h tag.name
    rw [Token.closableBefore, decide_eq_false_iff_not] at hmark ⊢
    omega
  | closing raw name => rfl
  | text raw => rfl
  | malformed raw => rfl

theorem eq_append_of_withMarks {tokens kept : List Token} {after : List (Token × Bool)}
    (h : withMarks tokens = (kept.map fun token => (token, false)) ++ after) :
    tokens = kept ++ after.map Prod.fst := by
  have hfst := congrArg (List.map Prod.fst) h
  rw [map_fst_withMarks, List.map_append, List.map_map] at hfst
  rw [hfst]
  exact congrArg (· ++ after.map Prod.fst) (List.map_id kept)

/-- Tokens that are unmarked where they stand are unmarked behind a cut. -/
theorem not_mark_of_cut {tokens kept front rest : List Token} {after : List (Token × Bool)}
    (hmarks : withMarks tokens = (kept.map fun token => (token, false)) ++ after)
    (hfront : front <+: kept) (hrest : ∀ token ∈ rest, token.IsText) :
    ∀ p ∈ withMarks (front ++ rest), p.2 = false := by
  induction front generalizing tokens kept with
  | nil =>
    intro p hp
    cases hmark : p.2 with
    | false => rfl
    | true =>
      have hopening := isOpening_of_mem_withMarks hp hmark
      have hmem : p.1 ∈ (withMarks rest).map Prod.fst := List.mem_map_of_mem hp
      rw [map_fst_withMarks] at hmem
      obtain ⟨raw, hraw⟩ := hrest p.1 hmem
      rw [hraw] at hopening
      cases hopening
  | cons token front ih =>
    obtain ⟨kept, rfl⟩ : ∃ more, kept = token :: more := by
      obtain ⟨more, rfl⟩ := hfront
      exact ⟨front ++ more, rfl⟩
    cases tokens with
    | nil => cases hmarks
    | cons first tokens =>
      rw [withMarks, List.map_cons, List.cons_append] at hmarks
      obtain ⟨hfirst, htokens⟩ := List.cons.inj hmarks
      obtain ⟨rfl, hmark⟩ := Prod.mk.inj hfirst
      have hfront := (List.cons_prefix_cons.1 hfront).2
      -- what follows the token behind the cut is, but for text, the front of what follows it
      have hpart : front <+: tokens := by
        rw [eq_append_of_withMarks htokens]
        exact hfront.trans (List.prefix_append kept _)
      obtain ⟨behind, rfl⟩ := hpart
      refine List.forall_mem_cons.2 ⟨?_, ih htokens hfront⟩
      refine closableBefore_mono (fun name => ?_) hmark
      show surplus (front ++ rest) name ≤ _
      rw [surplus_append_text hrest]
      exact surplus_le_append front behind name

/-! ## Literals -/

mutual

/-- The literals of a node, in order. -/
def Node.literals : Node → List String
  | .literal text => [text]
  | .tagged _ children => literals children

def literals : List Node → List String
  | [] => []
  | node :: nodes => node.literals ++ literals nodes

end

theorem exists_levelOf_cons {text : String} {node : Node} {nodes : List Node}
    (h : ∃ level, LevelOf level nodes ∧ .literal text ∈ level) :
    ∃ level, LevelOf level (node :: nodes) ∧ .literal text ∈ level := by
  obtain ⟨level, hlevel, hmem⟩ := h
  cases hlevel with
  | top => exact ⟨_, .top, List.mem_cons_of_mem node hmem⟩
  | inside htag hlevel => exact ⟨level, .inside (List.mem_cons_of_mem node htag) hlevel, hmem⟩

/-- A literal of a forest stands at one of its levels. -/
theorem exists_levelOf_of_mem_literals {text : String} {forest : List Node}
    (h : text ∈ literals forest) : ∃ level, LevelOf level forest ∧ .literal text ∈ level := by
  match forest with
  | [] => cases h
  | .literal other :: nodes =>
    rw [literals, Node.literals] at h
    rcases List.mem_cons.1 h with rfl | h
    · exact ⟨_, .top, List.mem_cons_self⟩
    · exact exists_levelOf_cons (exists_levelOf_of_mem_literals h)
  | .tagged opening children :: nodes =>
    rw [literals, Node.literals] at h
    rcases List.mem_append.1 h with h | h
    · obtain ⟨level, hlevel, hmem⟩ := exists_levelOf_of_mem_literals h
      exact ⟨level, .inside List.mem_cons_self hlevel, hmem⟩
    · exact exists_levelOf_cons (exists_levelOf_of_mem_literals h)

/-- No literal of a forest that was read is empty. -/
theorem ne_empty_of_mem_parse {text markup : String} {limit : Nat}
    (h : text ∈ literals (parse limit markup)) : text ≠ "" := by
  have hnormal : IsNormal (parse limit markup) := (isNormal_run_tokens limit markup).closeAll.1
  obtain ⟨level, hlevel, hmem⟩ := exists_levelOf_of_mem_literals h
  exact (hnormal level hlevel).text text hmem

/-! ## The tokens of a literal -/

mutual

/-- A literal of a layout holds tokens that stand side by side and are unmarked. -/
theorem Passage.exists_of_mem_literals {passage : Passage} {text : String}
    (h : text ∈ passage.node.literals) : ∃ kept before after, text = spell kept ∧
      passage.marked = before ++ ((kept.map fun token => (token, false)) ++ after) := by
  match passage with
  | .text tokens =>
    rw [node, Node.literals, List.mem_singleton] at h
    exact ⟨tokens, [], [], h, by rw [marked, List.append_nil, List.nil_append]⟩
  | .tag raw opening inside closing =>
    rw [node, Node.literals] at h
    obtain ⟨kept, before, after, htext, hmarked⟩ := exists_of_mem_literals_nodes h
    refine ⟨kept, (.opening raw opening, true) :: before,
      after ++ (closingToken opening.name closing).map fun token => (token, false), htext, ?_⟩
    rw [marked, hmarked, List.cons_append, List.append_assoc, List.append_assoc]

theorem Passage.exists_of_mem_literals_nodes {passages : List Passage} {text : String}
    (h : text ∈ literals (nodes passages)) : ∃ kept before after, text = spell kept ∧
      markedAll passages = before ++ ((kept.map fun token => (token, false)) ++ after) := by
  match passages with
  | [] => cases h
  | passage :: passages =>
    rw [nodes, literals] at h
    rcases List.mem_append.1 h with h | h
    · obtain ⟨kept, before, after, htext, hmarked⟩ := exists_of_mem_literals h
      refine ⟨kept, before, after ++ markedAll passages, htext, ?_⟩
      rw [markedAll, hmarked, List.append_assoc, List.append_assoc]
    · obtain ⟨kept, before, after, htext, hmarked⟩ := exists_of_mem_literals_nodes h
      refine ⟨kept, passage.marked ++ before, after, htext, ?_⟩
      rw [markedAll, hmarked, List.append_assoc]

end

/-- The tokens from some place on are those of a text, with the same marks. -/
theorem exists_scan_of_withMarks {cs : List Char} {before rest : List (Token × Bool)}
    (h : withMarks (scan cs) = before ++ rest) : ∃ cs', withMarks (scan cs') = rest := by
  induction before generalizing cs with
  | nil => exact ⟨cs, h⟩
  | cons p before ih =>
    cases hscan : scan cs with
    | nil =>
      rw [hscan] at h
      cases h
    | cons token tokens =>
      obtain ⟨after, -, hafter⟩ := begins_of_scan hscan
      rw [hscan, withMarks] at h
      exact ih (hafter ▸ (List.cons.inj h).2)

/-! ## A literal read again -/

namespace Nest

/-- Unmarked tokens outside all tags are text. -/
theorem run_unmarked (limit : Nat) {tokens : List (Token × Bool)} (h : ∀ p ∈ tokens, p.2 = false)
    (nodes : List Node) : Nest.run limit ⟨nodes, []⟩ tokens =
      ⟨appendText (spell (tokens.map Prod.fst)) nodes, []⟩ := by
  induction tokens generalizing nodes with
  | nil =>
    show (⟨nodes, []⟩ : Nest) = ⟨appendText "" nodes, []⟩
    rw [appendText_empty]
  | cons p tokens ih =>
    obtain ⟨token, mark⟩ := p
    obtain rfl : mark = false := h _ List.mem_cons_self
    have hstep : Nest.step limit ⟨nodes, []⟩ token false = ⟨appendText token.raw nodes, []⟩ := by
      cases token with
      | opening raw opening => rfl
      | closing raw name => rfl
      | text raw => rfl
      | malformed raw => rfl
    show Nest.run limit (Nest.step limit ⟨nodes, []⟩ token false) tokens = _
    rw [hstep, ih (fun q hq => h q (List.mem_cons_of_mem _ hq)), List.map_cons, spell,
      appendText_append]

end Nest

/-- **Nothing that can be read is left as text.**  A literal of a text, at any depth, is read
    again as that literal and nothing else, if the limit leaves room for all tags of the text. -/
theorem parse_of_mem_literals {limit : Nat} {markup text : String}
    (hlimit : (tokens markup).countP Token.isOpening ≤ limit)
    (h : text ∈ literals (parse limit markup)) : parse limit text = [.literal text] := by
  have hne : text ≠ "" := ne_empty_of_mem_parse h
  rw [← nodes_layout hlimit] at h
  obtain ⟨kept, before, after, rfl, hmarked⟩ := Passage.exists_of_mem_literals_nodes h
  rw [markedAll_layout] at hmarked
  obtain ⟨cs, hmarks⟩ := exists_scan_of_withMarks hmarked
  obtain ⟨front, rest, hfront, hrest, htokens⟩ := scan_cut (eq_append_of_withMarks hmarks)
  have hunmarked := not_mark_of_cut hmarks hfront hrest
  rw [← htokens] at hunmarked
  have hrun : Nest.empty.run limit (withMarks (tokens (spell kept))) =
      ⟨[.literal (spell kept)], []⟩ := by
    rw [Nest.empty, tokens, Nest.run_unmarked limit hunmarked [], map_fst_withMarks, ← tokens,
      spell_tokens, Nest.appendText, if_neg hne]
    intro last rest h
    cases h
  rw [parse, nestTokens, zip_closable, hrun]
  rfl

/-- The literal holds an opening that nothing closes.  Read alone, it is a bracket without an end,
    as the quote closes behind the `x`. -/
theorem parse_of_mem_literals_quote :
    "[i=\"]x\"" ∈ literals (parse 2 "[i=\"]x\"[b]y[/b]") ∧
      parse 2 "[i=\"]x\"" = [.literal "[i=\"]x\""] := by
  have hlimit : (tokens "[i=\"]x\"[b]y[/b]").countP Token.isOpening ≤ 2 := by cbv
  have hmem : "[i=\"]x\"" ∈ literals (parse 2 "[i=\"]x\"[b]y[/b]") := by
    rw [show parse 2 "[i=\"]x\"[b]y[/b]" =
      [.literal "[i=\"]x\"", .tagged ⟨"b", none, .empty⟩ [.literal "y"]] by cbv]
    exact List.mem_cons_self
  exact ⟨hmem, parse_of_mem_literals hlimit hmem⟩

end Markup
end BracketMark
