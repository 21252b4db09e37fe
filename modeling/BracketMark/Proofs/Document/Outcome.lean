import BracketMark.Proofs.Document.Standard
import BracketMark.Proofs.Document.Unknown

/-!
# When markup has HTML

With the built-in libraries and templates there are two ways to fail, and what the arguments of
the tags are has no part in either.  The empty text has no HTML; and a text has none if it reads as
a tag that is not built in, of which the first is reported (`toHtml_outcome`).

What building does with a tag that is not found is known of every index (`asks_build`); here it is
that of the built-in libraries.  Rendering what was built does not fail.
-/

namespace BracketMark

open Document Markup Tag Text

/-! ## The built-in tags -/

namespace Tag

/-- The first name that is not that of a built-in tag. -/
def firstUnknown (names : List String) : Option String :=
  names.find? (!standardNames.contains ·)

/-- The built-in libraries lack just these names, if they are in lower case. -/
theorem find?_lacks_standardIndex {names : List String}
    (h : ∀ name ∈ names, foldCase name = name) :
    names.find? standardIndex.lacks = firstUnknown names := by
  have hlacks : ∀ name ∈ names, standardIndex.lacks name = !standardNames.contains name := by
    intro name hname
    rw [Index.lacks, h name hname, ← Option.not_isSome, isSome_standardIndex]
  rw [firstUnknown, ← List.head?_filter, ← List.head?_filter, List.filter_congr hlacks]

end Tag

namespace Document

/-- The first tag that a text reads as and that is not built in, by its name. -/
def unknownTag? (markup : String) : Option String :=
  firstUnknown (tagNames (parse defaultLimit markup))

theorem compile_empty : (Engine.standard.compile "").1 = .error .empty := by
  rw [compile_standard, Index.compile, bracketParser, parse_eq_nil_iff.2 rfl]

/-- What comes of a text that is not empty. -/
theorem asks_compile {markup : String} (h : markup ≠ "") :
    Asks standardIndex (tagNames (parse defaultLimit markup))
      (Engine.standard.compile markup).1 := by
  rw [compile_standard, Index.compile, bracketParser]
  cases hforest : parse defaultLimit markup with
  | nil => exact absurd (parse_eq_nil_iff.1 hforest) h
  | cons node nodes => exact asks_build standardIndex (node :: nodes)

end Document

/-- The three ways it can go. -/
theorem toHtml_cases (markup : String) :
    markup = "" ∧ unknownTag? markup = none ∧ toHtml markup = .error (.build .empty) ∨
    markup ≠ "" ∧ (∃ name, unknownTag? markup = some name ∧
      toHtml markup = .error (.build (.unknownTag name))) ∨
    markup ≠ "" ∧ unknownTag? markup = none ∧ ∃ html, toHtml markup = .ok html := by
  by_cases hempty : markup = ""
  · subst hempty
    refine Or.inl ⟨rfl, ?_, toHtml_of_compile_error compile_empty⟩
    rw [unknownTag?, parse_eq_nil_iff.2 rfl, tagNames]
    rfl
  · have hasks := asks_compile hempty
    have hunknown : (tagNames (parse defaultLimit markup)).find? standardIndex.lacks =
        unknownTag? markup :=
      find?_lacks_standardIndex fun name hname => foldCase_of_mem_parse hname
    rw [Asks, hunknown] at hasks
    cases hfirst : unknownTag? markup with
    | some name =>
      rw [hfirst] at hasks
      exact Or.inr (Or.inl ⟨hempty, name, rfl, toHtml_of_compile_error hasks⟩)
    | none =>
      rw [hfirst] at hasks
      obtain ⟨tree, htree⟩ := hasks
      exact Or.inr (Or.inr ⟨hempty, rfl, _, toHtml_of_compile htree⟩)

/-- **There are exactly two ways to have no HTML**: the text is empty, or it reads as a tag that is
    not built in, and then the first one is reported.  No other error is ever given. -/
theorem toHtml_outcome (markup : String) :
    (toHtml markup = .error (.build .empty) ↔ markup = "") ∧
    (∀ name, toHtml markup = .error (.build (.unknownTag name)) ↔
      unknownTag? markup = some name) ∧
    ((∃ html, toHtml markup = .ok html) ↔ markup ≠ "" ∧ unknownTag? markup = none) ∧
    ∀ error, toHtml markup = .error error →
      error = .build .empty ∨ ∃ name, error = .build (.unknownTag name) := by
  rcases toHtml_cases markup with ⟨hempty, hnone, hhtml⟩ | ⟨hempty, name, hname, hhtml⟩ |
    ⟨hempty, hnone, html, hhtml⟩
  · rw [hhtml, hnone]
    refine ⟨iff_of_true rfl hempty, fun name => iff_of_false nofun nofun,
      iff_of_false nofun fun h => h.1 hempty, ?_⟩
    rintro _ ⟨⟩
    exact Or.inl rfl
  · rw [hhtml, hname]
    refine ⟨iff_of_false nofun hempty, fun other => ?_, iff_of_false nofun nofun, ?_⟩
    · constructor
      · rintro ⟨⟩
        rfl
      · rintro ⟨⟩
        rfl
    · rintro _ ⟨⟩
      exact Or.inr ⟨name, rfl⟩
  · rw [hhtml, hnone]
    exact ⟨iff_of_false nofun hempty, fun name => iff_of_false nofun nofun,
      iff_of_true ⟨html, rfl⟩ ⟨hempty, rfl⟩, nofun⟩

/-- The tag inside comes before the one behind. -/
theorem toHtml_outcome_inside :
    toHtml "[b][Zap]x[/zap][/b][zip][/zip]" = .error (.build (.unknownTag "zap")) := by
  have hunknown : unknownTag? "[b][Zap]x[/zap][/b][zip][/zip]" = some "zap" := by decide +kernel
  exact ((toHtml_outcome "[b][Zap]x[/zap][/b][zip][/zip]").2.1 "zap").2 hunknown

end BracketMark
