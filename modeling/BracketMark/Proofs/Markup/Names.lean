import BracketMark.Proofs.Markup.Closings
import BracketMark.Proofs.Markup.NormalForm

/-!
# The tags that a text reads as

The names of the tags of a forest, in the order in which a reader meets them (`tagNames`).  In the
forest of a text these are in lower case, since every tag there was an opening tag of the text
(`foldCase_of_mem_parse`).  And a text that is not empty reads as something
(`parse_eq_nil_iff`): its first token leaves an event, whatever it is.
-/

namespace BracketMark
namespace Markup

open Text

/-! ## Names -/

mutual

/-- The name of a tag comes before the names inside it. -/
def Node.tagNames : Node → List String
  | .literal _ => []
  | .tagged opening children => opening.name :: tagNames children

/-- The names of all tags, in the order of the text. -/
def tagNames : List Node → List String
  | [] => []
  | node :: nodes => node.tagNames ++ tagNames nodes

end

mutual

theorem mem_tagNames_node {name : String} {node : Node} (h : name ∈ node.tagNames) :
    ∃ opening, .enter opening ∈ node.events ∧ opening.name = name := by
  match node with
  | .literal text =>
    rw [Node.tagNames] at h
    cases h
  | .tagged opening children =>
    rw [Node.tagNames] at h
    rw [Node.events]
    rcases List.mem_cons.1 h with rfl | h
    · exact ⟨opening, List.mem_cons_self, rfl⟩
    · obtain ⟨inner, hinner, hname⟩ := mem_tagNames h
      exact ⟨inner, List.mem_cons_of_mem _ (List.mem_append_left _ hinner), hname⟩

/-- Every name is that of a tag that is entered. -/
theorem mem_tagNames {name : String} {nodes : List Node} (h : name ∈ tagNames nodes) :
    ∃ opening, .enter opening ∈ events nodes ∧ opening.name = name := by
  match nodes with
  | [] =>
    rw [tagNames] at h
    cases h
  | node :: nodes =>
    rw [tagNames] at h
    rw [events]
    rcases List.mem_append.1 h with h | h
    · obtain ⟨opening, hopening, hname⟩ := mem_tagNames_node h
      exact ⟨opening, List.mem_append_left _ hopening, hname⟩
    · obtain ⟨opening, hopening, hname⟩ := mem_tagNames h
      exact ⟨opening, List.mem_append_right _ hopening, hname⟩

end

/-! ## Lower case -/

theorem foldCase_of_mem_scan {cs : List Char} {raw : String} {opening : Opening}
    (h : .opening raw opening ∈ scan cs) : foldCase opening.name = opening.name := by
  have hname : isPlainName opening.name.toList = true := (isNormal_of_mem_scan h).name
  rw [foldCase, fold_of_isKeyChar (isKeyChar_of_isPlainName hname), String.ofList_toList]

/-- **The tags of a text have names in lower case**, however they were written. -/
theorem foldCase_of_mem_parse {limit : Nat} {markup name : String}
    (h : name ∈ tagNames (parse limit markup)) : foldCase name = name := by
  obtain ⟨opening, hentered, rfl⟩ := mem_tagNames h
  obtain ⟨front, behind, hevents⟩ := List.append_of_mem hentered
  have hprefix : front ++ [.enter opening] <+: events (parse limit markup) := by
    rw [hevents]
    exact (List.prefix_append_right_inj front).2 ⟨behind, rfl⟩
  obtain ⟨before, raw, after, htokens, -, -⟩ := exists_becomesTag hprefix
  have hmem : .opening raw opening ∈ scan markup.toList := by
    show _ ∈ tokens markup
    rw [htokens]
    exact List.mem_append_right _ List.mem_cons_self
  exact foldCase_of_mem_scan hmem

/-! ## Texts that read as nothing -/

theorem events_step_empty_ne_nil {token : Token} (hraw : token.raw ≠ "") (limit : Nat)
    (mark : Bool) : (Nest.empty.step limit token mark).events ≠ [] := by
  have htext : (Nest.empty.addText token.raw).events ≠ [] := by
    rw [Nest.events_addText]
    intro hnil
    have hchars := (List.append_eq_nil_iff.1 hnil).2
    exact hraw (String.toList_eq_nil_iff.1 (List.map_eq_nil_iff.1 hchars))
  cases token with
  | opening raw opening =>
    rw [Nest.step]
    split
    case isTrue =>
      rw [Nest.events_push]
      exact List.append_ne_nil_of_right_ne_nil _ (List.cons_ne_nil _ _)
    case isFalse => exact htext
  | closing raw name => exact htext
  | text raw => exact htext
  | malformed raw => exact htext

/-- **Only the empty text reads as nothing.** -/
theorem parse_eq_nil_iff {limit : Nat} {markup : String} :
    parse limit markup = [] ↔ markup = "" := by
  refine ⟨fun hnil => ?_, ?_⟩
  · cases htokens : tokens markup with
    | nil => rw [← spell_tokens markup, htokens, spell]
    | cons token rest =>
      have hraw : token.raw ≠ "" := by
        have hmem : token ∈ tokens markup := htokens ▸ List.mem_cons_self
        exact raw_ne_empty hmem
      -- the events of the first token stay in the forest
      have hforest := (Nest.events_run (Nest.empty.step limit token (token.closableBefore rest))
        limit (withMarks rest)).trans (Nest.events_finish _)
      rw [parse, nestTokens, zip_closable, htokens, withMarks, Nest.run_cons] at hnil
      rw [hnil, events] at hforest
      exact absurd (List.prefix_nil.1 hforest) (events_step_empty_ne_nil hraw _ _)
  · rintro rfl
    rw [parse, tokens, String.toList_empty, scan]
    rfl

end Markup
end BracketMark
