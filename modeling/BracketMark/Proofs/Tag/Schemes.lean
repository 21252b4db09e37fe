import BracketMark.Proofs.Tag.Links
import BracketMark.Proofs.Text.Fold

/-!
# Schemes as a browser reads them

A browser cleans an address up before it looks for a scheme in it: it deletes tabs and line breaks
wherever they stand, and strips control characters and spaces off both ends (`cleaned`).  A scheme
is then a letter and what may follow it, up to a colon (`HasScheme`).  The test of targets knows none
of this: it goes by the first character that ends a scheme (`ColonFirst`).

The two agree because a browser never deletes a character that ends a scheme: what it takes for a
scheme stands before the first of them in the target too, perhaps with characters between that it
has deleted; and a text with such characters in it is no safe scheme.
-/

namespace BracketMark
namespace Tag
namespace Links

open Text

/-! ## Addresses in a browser -/

/-- A character that a browser deletes wherever it stands. -/
def isDeleted (c : Char) : Bool :=
  c == '\t' || c == '\n' || c == '\r'

/-- A character that a browser strips off the ends of an address. -/
def isStripped (c : Char) : Bool :=
  c.toNat ≤ 0x20

/-- An address as a browser goes on to read it. -/
def cleaned (address : List Char) : List Char :=
  ((address.filter (fun c => !isDeleted c)).dropWhile isStripped).rdropWhile isStripped

/-- A character of a scheme behind its first. -/
def isSchemeChar (c : Char) : Bool :=
  c.isAlphanum || c == '+' || c == '-' || c == '.'

/-- `HasScheme address scheme`: the address begins with the scheme and a colon. -/
inductive HasScheme : List Char → List Char → Prop
  | intro {c : Char} {cs rest : List Char} (hc : c.isAlpha = true)
      (hcs : ∀ d ∈ cs, isSchemeChar d = true) : HasScheme (c :: cs ++ ':' :: rest) (c :: cs)

/-! ## What cleaning up leaves in place -/

/-- What is stripped off a text stands before and behind what is left. -/
theorem exists_stripped (address : List Char) : ∃ before after,
    address.filter (fun c => !isDeleted c) = before ++ (cleaned address ++ after) ∧
      ∀ c ∈ before, isStripped c = true := by
  unfold cleaned
  generalize address.filter (fun c => !isDeleted c) = kept
  refine ⟨kept.takeWhile isStripped, (kept.dropWhile isStripped).rtakeWhile isStripped, ?_, ?_⟩
  · rw [List.rdropWhile_append_rtakeWhile, List.takeWhile_append_dropWhile]
  · exact fun c hc => List.mem_takeWhile_imp hc

/-- No character that ends a scheme is deleted or stripped, and none is part of a scheme. -/
theorem endsScheme_eq_false {c : Char}
    (h : isDeleted c = true ∨ isStripped c = true ∨ isSchemeChar c = true) :
    endsScheme c = false := by
  rw [endsScheme_eq_false_iff]
  intro hmem
  simp only [List.mem_cons, List.not_mem_nil, or_false] at hmem
  rcases hmem with rfl | rfl | rfl | rfl
  all_goals simp [isDeleted, isStripped, isSchemeChar] at h

/-- The characters of a safe scheme are neither deleted nor stripped. -/
theorem IsSafe.stays {scheme : List Char} (h : IsSafe scheme) :
    ∀ c ∈ scheme, isDeleted c = false ∧ isStripped c = false := by
  intro c hc
  have hletters : ∀ safe ∈ safeSchemes, safe.toList.all (fun d => 0x20 < d.toNat) = true := by
    decide
  have hlower : 0x20 < c.toLower.toNat := by
    have hletter : c.toLower ∈ (String.ofList (fold scheme)).toList := by
      rw [String.toList_ofList]
      exact List.mem_map_of_mem hc
    exact of_decide_eq_true (List.all_eq_true.1 (hletters _ h) _ hletter)
  have hcapitals : ∀ n : Fin 26, 0x20 < (Char.ofNat (65 + n)).toNat := by decide
  have hchar : 0x20 < c.toNat := by
    rcases toLower_eq_or_capital c with hsame | ⟨n, rfl⟩
    · rwa [hsame] at hlower
    · exact hcapitals n
  constructor
  · simp only [isDeleted, Bool.or_eq_false_iff, beq_eq_false_iff_ne]
    refine ⟨⟨?_, ?_⟩, ?_⟩
    all_goals
      rintro rfl
      exact absurd hchar (by decide)
  · simpa [isStripped] using hchar

/-- A character that is kept stands in the text behind those that are kept before it. -/
theorem exists_of_filter_eq_append {p : Char → Bool} {cs before after : List Char} {c : Char}
    (h : cs.filter p = before ++ c :: after) :
    ∃ front back, cs = front ++ c :: back ∧ front.filter p = before := by
  obtain ⟨front, rest, rfl, hfront, hrest⟩ := List.filter_eq_append_iff.1 h
  obtain ⟨gap, back, rfl, hgap, -, -⟩ := List.filter_eq_cons_iff.1 hrest
  refine ⟨front ++ gap, back, by simp, ?_⟩
  rw [List.filter_append, hfront, List.filter_eq_nil_iff.2 hgap, List.append_nil]

/-- **A scheme that a browser sees** is what stands before the first colon of the address, once the
    characters that it deletes and strips are taken out. -/
theorem exists_colonFirst_of_hasScheme {address scheme : List Char}
    (h : HasScheme (cleaned address) scheme) :
    ∃ before front, ColonFirst address front ∧
      front.filter (fun c => !isDeleted c) = before ++ scheme ∧
      ∀ c ∈ before, isStripped c = true := by
  obtain ⟨before, after, hkept, hbefore⟩ := exists_stripped address
  generalize cleaned address = text at h hkept
  cases h with
  | @intro c cs rest hc hcs =>
    have hscheme : ∀ d ∈ c :: cs, isSchemeChar d = true := by
      intro d hd
      rcases List.mem_cons.1 hd with rfl | hd
      · simp [isSchemeChar, Char.isAlphanum, hc]
      · exact hcs d hd
    have hsplit : address.filter (fun c => !isDeleted c) =
        (before ++ c :: cs) ++ ':' :: (rest ++ after) := by
      rw [hkept]
      simp
    obtain ⟨front, back, haddress, hfront⟩ := exists_of_filter_eq_append hsplit
    refine ⟨before, front, ⟨?_, back, haddress⟩, hfront, hbefore⟩
    -- what stands before the colon is deleted, stripped or part of the scheme
    intro d hd
    rw [← endsScheme_eq_false_iff]
    apply endsScheme_eq_false
    cases hdeleted : isDeleted d with
    | true => exact Or.inl rfl
    | false =>
      have hmem : d ∈ front.filter (fun c => !isDeleted c) :=
        List.mem_filter.2 ⟨hd, by simp [hdeleted]⟩
      rw [hfront, List.mem_append] at hmem
      rcases hmem with hmem | hmem
      · exact Or.inr (Or.inl (hbefore d hmem))
      · exact Or.inr (Or.inr (hscheme d hmem))

/-- If what stands before the first colon of an address is safe, a browser sees that scheme or
    none. -/
theorem isSafe_of_hasScheme {address scheme : List Char}
    (hsafe : ∀ front, ColonFirst address front → IsSafe front)
    (h : HasScheme (cleaned address) scheme) : IsSafe scheme := by
  obtain ⟨before, front, hfront, hkept, hbefore⟩ := exists_colonFirst_of_hasScheme h
  have hstays := (hsafe front hfront).stays
  have hself : front.filter (fun c => !isDeleted c) = front := by
    rw [List.filter_eq_self]
    intro c hc
    simp [(hstays c hc).1]
  rw [hself] at hkept
  have hnil : before = [] := by
    rw [List.eq_nil_iff_forall_not_mem]
    intro c hc
    have hstripped := (hstays c (hkept ▸ List.mem_append_left scheme hc)).2
    rw [hbefore c hc] at hstripped
    cases hstripped
  rw [hnil, List.nil_append] at hkept
  exact hkept ▸ hsafe front hfront

/-! ## Targets in a browser -/

/-- A front of a text without its leading blanks, with those blanks, is a front of the text. -/
theorem ColonFirst.of_trim {target scheme : List Char} (h : ColonFirst (trim target) scheme) :
    ∃ front, ColonFirst target front := by
  obtain ⟨hscheme, rest, htrim⟩ := h
  obtain ⟨before, after, htarget, hbefore, -⟩ := (trimsTo_trim target).around
  refine ⟨before ++ scheme, fun c hc => ?_, rest ++ after, ?_⟩
  · have hends : ∀ d ∈ [':', '/', '?', '#'], isBlank d = false := by
      simp only [List.mem_cons, List.not_mem_nil, or_false]
      rintro d (rfl | rfl | rfl | rfl)
      all_goals rfl
    rcases List.mem_append.1 hc with hc | hc
    · intro hmem
      have hblank := hbefore c hc
      rw [hends c hmem] at hblank
      cases hblank
    · exact hscheme c hc
  · rw [htarget, htrim]
    simp

/-- **Accepted targets are harmless.**  What is accepted is the target without the blanks around it,
    is not empty, is accepted as it stands, and whatever scheme a browser sees in it is safe.  A
    target that is not blank is refused exactly if of the characters that end a scheme a colon comes
    first, and what stands before it in the trimmed target is no safe scheme. -/
theorem safeTarget_harmless (target : List Char) :
    (∀ accepted, safeTarget target = some accepted →
      TrimsTo target accepted ∧ accepted ≠ [] ∧ safeTarget accepted = some accepted ∧
        ∀ scheme, HasScheme (cleaned accepted) scheme → IsSafe scheme) ∧
    ((∃ c ∈ target, isBlank c = false) →
      (safeTarget target = none ↔ (∃ front, ColonFirst target front) ∧
        ∃ scheme, ColonFirst (trim target) scheme ∧ ¬IsSafe scheme)) := by
  constructor
  · intro accepted h
    obtain ⟨htrim, hne, hsafe⟩ := safeTarget_eq_some_iff.1 h
    refine ⟨?_, hne, safeTarget_accepted h, fun scheme => isSafe_of_hasScheme hsafe⟩
    rw [htrim]
    exact trimsTo_trim target
  · intro ⟨c, hc, hblank⟩
    have hne : trim target ≠ [] := by
      intro hnil
      rw [trim_eq_nil_iff.1 hnil c hc] at hblank
      cases hblank
    rw [safeTarget_eq_none_iff hne]
    constructor
    · intro ⟨scheme, hcolon, hunsafe⟩
      exact ⟨hcolon.of_trim, scheme, hcolon, hunsafe⟩
    · intro h
      exact h.2

/-- The tab behind the colon is no part of a scheme.  The one inside the word is deleted by a
    browser, and makes the word no safe scheme here. -/
theorem safeTarget_harmless_tabs :
    safeTarget " HTTPS:\t//x".toList = some "HTTPS:\t//x".toList ∧
      HasScheme (cleaned "HTTPS:\t//x".toList) "HTTPS".toList ∧ IsSafe "HTTPS".toList ∧
      (∃ c ∈ "java\tscript:x".toList, isBlank c = false) ∧
      safeTarget "java\tscript:x".toList = none := by
  have haccepted : safeTarget " HTTPS:\t//x".toList = some "HTTPS:\t//x".toList := rfl
  have hscheme : HasScheme (cleaned "HTTPS:\t//x".toList) "HTTPS".toList :=
    @HasScheme.intro 'H' "TTPS".toList "//x".toList rfl (List.all_eq_true.1 rfl)
  have hblank : ∃ c ∈ "java\tscript:x".toList, isBlank c = false := ⟨'j', by decide, rfl⟩
  have hcolon : ColonFirst "java\tscript:x".toList "java\tscript".toList :=
    ⟨by simp, ['x'], rfl⟩
  refine ⟨haccepted, hscheme, ?_, hblank, ?_⟩
  · exact ((safeTarget_harmless " HTTPS:\t//x".toList).1 _ haccepted).2.2.2 _ hscheme
  · exact ((safeTarget_harmless "java\tscript:x".toList).2 hblank).2
      ⟨⟨_, hcolon⟩, _, hcolon, by unfold IsSafe; decide⟩

/-- What stands before the colon is not trimmed for itself: a blank there leaves no safe scheme. -/
theorem not_isSafe_trim_of_refused :
    ¬∀ target : List Char, (∃ c ∈ target, isBlank c = false) → safeTarget target = none →
      ∃ front, ColonFirst target front ∧ ¬IsSafe (trim front) := by
  intro h
  have hrefused : safeTarget "http :x".toList = none := rfl
  obtain ⟨front, hfront, hunsafe⟩ := h _ ⟨'h', by decide, rfl⟩ hrefused
  have hscheme : scheme? "http :x".toList = some "http ".toList := rfl
  rw [scheme?_eq_some_iff.2 hfront] at hscheme
  cases hscheme
  exact hunsafe (by unfold IsSafe; decide)

end Links
end Tag
end BracketMark
