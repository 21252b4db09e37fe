import BracketMark.Proofs.Html.Escape
import BracketMark.Proofs.Text.Quoted
import BracketMark.Proofs.Text.Replace
import BracketMark.Proofs.Template.Applied

/-!
# Printing and escaping

A value becomes HTML in two ways: a template that escapes prints it, and `Value.toSafe` makes safe
text of it.  For everything but lists the two are one.  A list is printed through an escape of its
own, which writes slashes as entities too (`toList_printEscaped_list`), and `toSafe` leaves slashes
alone; so the two differ for a list exactly if there is a slash in one of the texts that it holds,
however deep (`slash_mem_item_iff`).
-/

namespace BracketMark
namespace Template

open Text Html

/-! ## The texts in a value -/

namespace Value

/-- `Holds value text`: the text is the value, or one of the texts in it. -/
inductive Holds : Value → String → Prop
  | text (s : String) : Holds (.text s) s
  | safe (html : Safe) : Holds (.safe html) html.text
  | list {items : List Value} {value : Value} {s : String} (hitem : value ∈ items)
      (hholds : Holds value s) : Holds (.list items) s

theorem slash_mem_itemsText_iff (items : List Value) :
    '/' ∈ (itemsText items).toList ↔ ∃ value ∈ items, '/' ∈ value.item.toList := by
  induction items with
  | nil => simp [itemsText]
  | cons value values ih =>
    cases values with
    | nil => simp [itemsText]
    | cons next rest => simp [itemsText, ih]

theorem slash_notMem_decimalText (n : Int) : '/' ∉ (decimalText n).toList := by
  intro h
  rcases mem_decimalText h with hminus | hdigit
  · exact absurd hminus (by decide)
  · exact absurd hdigit (by decide)

/-- A value is written with a slash exactly if there is one in its texts. -/
theorem slash_mem_item_iff (value : Value) :
    '/' ∈ value.item.toList ↔ ∃ s, Holds value s ∧ '/' ∈ s.toList := by
  constructor
  · intro h
    cases value with
    | none => simp [item] at h
    | bool b =>
      cases b with
      | true => simp [item] at h
      | false => simp [item] at h
    | int n =>
      rw [item] at h
      exact absurd h (slash_notMem_decimalText n)
    | text s =>
      rw [item, slash_mem_quoted_iff] at h
      exact ⟨s, .text s, h⟩
    | safe html =>
      rw [item, slash_mem_quoted_iff] at h
      exact ⟨html.text, .safe html, h⟩
    | list items =>
      have hitems : '/' ∈ (itemsText items).toList := by simpa [item] using h
      obtain ⟨inner, hinner, hslash⟩ := (slash_mem_itemsText_iff items).1 hitems
      obtain ⟨s, hholds, hs⟩ := (slash_mem_item_iff inner).1 hslash
      exact ⟨s, .list hinner hholds, hs⟩
  · rintro ⟨s, hholds, hs⟩
    induction hholds with
    | text s => rwa [item, slash_mem_quoted_iff]
    | safe html => rwa [item, slash_mem_quoted_iff]
    | list hitem _ ih =>
      have hitems := (slash_mem_itemsText_iff _).2 ⟨_, hitem, ih hs⟩
      simp [item, hitems]
termination_by sizeOf value
decreasing_by
  have := List.sizeOf_lt_of_mem hinner
  simp only [Value.list.sizeOf_spec]
  omega

end Value

/-! ## Two ways to escape -/

/-- The slash as an entity. -/
def slashEntity : List Char := "&#x2f;".toList

/-- Escaping neither makes a slash nor touches one. -/
theorem slash_mem_escapeChar_iff {c : Char} : '/' ∈ escapeChar c ↔ c = '/' := by
  constructor
  · intro h
    cases hspecial : isSpecial c with
    | false =>
      rw [escapeChar_of_not_special hspecial] at h
      exact (List.mem_singleton.1 h).symm
    | true =>
      have hentities : ∀ e ∈ entities, '/' ∉ e.toList := by decide
      obtain ⟨entity, hentity, hescape⟩ := escapeChar_of_special hspecial
      rw [hescape] at h
      exact absurd h (hentities entity hentity)
  · rintro rfl
    decide

theorem slash_mem_escapeText_iff {cs : List Char} : '/' ∈ escapeText cs ↔ '/' ∈ cs := by
  simp [escapeText, slash_mem_escapeChar_iff]

/-- The escape of lists is the other one with its slashes replaced. -/
theorem flatMap_escapeListChar (cs : List Char) :
    cs.flatMap escapeListChar = replaceAll ['/'] slashEntity (escapeText cs) := by
  rw [replaceAll_singleton, escapeText, List.flatMap_assoc]
  apply List.flatMap_congr
  intro c _
  unfold escapeListChar
  split
  · next hc =>
    subst hc
    rfl
  · next hc =>
    rw [← replaceAll_singleton, replaceAll_of_notMem]
    intro hmem
    exact hc (slash_mem_escapeChar_iff.1 hmem)

namespace Value

variable {value : Value}

/-- A number has no characters that mean something in markup. -/
theorem escape_decimalText (n : Int) : (Safe.escape (decimalText n)).text = decimalText n := by
  have hplain : ∀ c ∈ (decimalText n).toList, isSpecial c = false := by
    intro c hc
    apply not_isSpecial (p := fun d => d == '-' || d.isAlphanum) (by decide)
    simpa using mem_decimalText hc
  rw [Safe.escape, escapeText_eq_self hplain, String.ofList_toList]

/-- What is no list prints as it is made safe. -/
theorem printEscaped_of_not_list (h : ∀ items, value ≠ .list items) :
    value.printEscaped = value.toSafe.text := by
  cases value with
  | none => rfl
  | bool b =>
    cases b with
    | false => rfl
    | true => rfl
  | int n => exact (escape_decimalText n).symm
  | text s => rfl
  | safe html => rfl
  | list items => exact absurd rfl (h items)

theorem toList_toSafe_list (items : List Value) :
    (Value.list items).toSafe.text.toList = escapeText (Value.list items).item.toList :=
  String.toList_ofList

/-- A list prints as it is made safe, but for its slashes. -/
theorem toList_printEscaped_list (items : List Value) :
    (Value.list items).printEscaped.toList =
      replaceAll ['/'] slashEntity (Value.list items).toSafe.text.toList := by
  rw [toList_toSafe_list, ← flatMap_escapeListChar]
  exact String.toList_ofList

/-- The value is a list, and there is a slash in one of the texts in it. -/
def IsSlashedList (value : Value) : Prop :=
  (∃ items, value = .list items) ∧ ∃ s, Holds value s ∧ '/' ∈ s.toList

theorem slash_mem_toSafe_list_iff (items : List Value) :
    '/' ∈ (Value.list items).toSafe.text.toList ↔ IsSlashedList (.list items) := by
  rw [toList_toSafe_list, slash_mem_escapeText_iff, slash_mem_item_iff, IsSlashedList]
  simp

/-- **Printing and escaping agree** for all but lists with a slash in them. -/
theorem printEscaped_of_not_slashed (h : ¬value.IsSlashedList) :
    value.printEscaped = value.toSafe.text := by
  by_cases hlist : ∃ items, value = .list items
  · obtain ⟨items, rfl⟩ := hlist
    rw [← slash_mem_toSafe_list_iff] at h
    rw [← String.toList_inj, toList_printEscaped_list, replaceAll_of_notMem h]
  · apply printEscaped_of_not_list
    intro items hitems
    exact hlist ⟨items, hitems⟩

/-- **Such lists print with entities for their slashes**, and so as something else. -/
theorem printEscaped_of_slashed (h : value.IsSlashedList) :
    value.printEscaped.toList = replaceAll ['/'] slashEntity value.toSafe.text.toList ∧
      value.printEscaped ≠ value.toSafe.text := by
  obtain ⟨items, rfl⟩ := h.1
  have hlist := toList_printEscaped_list items
  constructor
  · exact hlist
  · intro heq
    have hslash := (slash_mem_toSafe_list_iff items).2 h
    rw [← heq, hlist] at hslash
    exact notMem_replaceAll (by decide) _ hslash

end Value

/-! ## A template of one hole -/

theorem not_isSuffixOf_of_getLast?_ne {xs ys : List Char} (hne : xs ≠ [])
    (h : xs.getLast? ≠ ys.getLast?) : xs.isSuffixOf ys = false := by
  rw [Bool.eq_false_iff]
  intro hsuffix
  obtain ⟨front, rfl⟩ := List.isSuffixOf_iff_suffix.1 hsuffix
  rw [List.getLast?_append_of_ne_nil _ hne] at h
  exact h rfl

/-- A template whose name ends in `.html` escapes what it prints. -/
theorem escapes_of_suffix {name : String} (h : ".html".toList <:+ name.toList) :
    escapes name = true := by
  obtain ⟨front, hfront⟩ := h
  have hlast : name.toList.getLast? = some 'l' := by
    rw [← hfront]
    exact List.getLast?_append_of_ne_nil _ (by decide)
  -- none of the endings that are dropped ends in this letter
  have hfind : neutralEndings.find? (fun ending => ending.toList.isSuffixOf name.toList) = none := by
    rw [List.find?_eq_none]
    intro ending hending
    have hneutral : ∀ e ∈ neutralEndings, e.toList ≠ [] ∧ e.toList.getLast? ≠ some 'l' := by decide
    obtain ⟨hne, hother⟩ := hneutral ending hending
    rw [not_isSuffixOf_of_getLast?_ne hne (hlast ▸ hother)]
    exact Bool.false_ne_true
  have hkind : kind name = "html" := by
    unfold kind stem
    rw [hfind, ← hfront, List.reverse_append]
    rfl
  rw [escapes, hkind]
  rfl

theorem read_hole (name : String) :
    read name (hole "x") = some ⟨escapes name, [.print (.name "x")]⟩ := by
  have hbreak : dropFinalBreak (hole "x").toList = spell [.print [.name "x"]] := by
    rw [toList_hole]
    rfl
  rw [read, hbreak, chunks_spell (by decide)]
  rfl

/-- A template of one hole, of a name that ends in `.html`. -/
theorem fetch_hole {σ : Type} {source : Source σ} {store : Store .standard} {world : σ}
    {name : String}
    (hname : ".html".toList <:+ name.toList) (hkept : store.get? name = none)
    (hsource : (source name world).1 = .ok (some (hole "x"))) :
    (Store.fetch source name store world).1 = .ok ⟨true, [.print (.name "x")]⟩ := by
  have hanswer : Language.standard.ofAnswer name (source name world).1 =
      .ok ⟨true, [.print (.name "x")]⟩ := by
    rw [hsource, Language.ofAnswer_of_read (read_hole name), escapes_of_suffix hname]
  rw [Store.fetch, hkept]
  simp only [hanswer]

theorem eval_hole {frame : Frame} {value : Value} (hbound : frame.get? "x" = some value) :
    Compiled.eval ⟨true, [.print (.name "x")]⟩ frame = .ok ⟨value.printEscaped⟩ := by
  rw [Compiled.eval, evalParts_print hbound evalParts_nil, String.append_empty]
  rfl

/-- **A value in a template that escapes.**  A template whose name ends in `.html` and that prints a
    name can be read, and what it gives is what the name stands for, made safe text, unless that is
    a list with a slash in one of its texts; then the slashes in it are entities besides. -/
theorem printed_html {σ : Type} {source : Source σ} {store : Store .standard} {world : σ}
    {name : String} {frame : Frame} {value : Value} (hname : ".html".toList <:+ name.toList)
    (hkept : store.get? name = none) (hsource : (source name world).1 = .ok (some (hole "x")))
    (hbound : frame.get? "x" = some value) :
    ∃ template html, (Store.fetch source name store world).1 = .ok template ∧
      template.eval frame = .ok html ∧ (¬value.IsSlashedList → html = value.toSafe) ∧
      (value.IsSlashedList → html ≠ value.toSafe ∧
        html.text.toList = replaceAll ['/'] slashEntity value.toSafe.text.toList) := by
  have hfetch := fetch_hole hname hkept hsource
  have heval := eval_hole hbound
  refine ⟨⟨true, [.print (.name "x")]⟩, ⟨value.printEscaped⟩, hfetch, heval, ?_, ?_⟩
  · intro h
    exact congrArg Safe.mk (Value.printEscaped_of_not_slashed h)
  · intro h
    obtain ⟨hslashes, hne⟩ := Value.printEscaped_of_slashed h
    exact ⟨fun heq => hne (congrArg Safe.text heq), hslashes⟩

/-- A source that has a template of one hole under every name. -/
def holeSource : Source Unit :=
  fun _ world => (.ok (some (hole "x")), world)

/-- A list in a list, with text that is plain, text that is safe and a number. -/
def mixedList : Value :=
  .list [.list [.text "a&b", .safe ⟨"<i>"⟩], .int (-5), .none]

/-- A list without slashes prints as it is made safe, safe text in it included. -/
theorem printed_html_mixedList :
    ".html".toList <:+ "t.html".toList ∧ ¬mixedList.IsSlashedList ∧
      ∃ template html,
        (Store.fetch holeSource "t.html" (.empty : Store .standard) ()).1 = .ok template ∧
          template.eval (Dict.empty.insert "x" mixedList) = .ok html ∧ html = mixedList.toSafe := by
  have hname : ".html".toList <:+ "t.html".toList := by decide
  have hslashed : ¬mixedList.IsSlashedList := by
    rw [mixedList, ← Value.slash_mem_toSafe_list_iff]
    decide +kernel
  obtain ⟨template, html, hfetch, heval, hsame, -⟩ :=
    @printed_html Unit holeSource .empty () "t.html" (Dict.empty.insert "x" mixedList) mixedList
      hname rfl rfl rfl
  exact ⟨hname, hslashed, template, html, hfetch, heval, hsame hslashed⟩

/-- Printing a value does not always give what it is made safe as: a list can have a slash in it. -/
theorem not_printed_html_slashedList :
    ¬∀ value : Value, ∃ template html,
      (Store.fetch holeSource "t.html" (.empty : Store .standard) ()).1 = .ok template ∧
        template.eval (Dict.empty.insert "x" value) = .ok html ∧ html = value.toSafe := by
  intro h
  obtain ⟨template, html, hfetch, heval, rfl⟩ := h (.list [.text "a/b"])
  rw [fetch_hole (by decide) rfl rfl] at hfetch
  cases hfetch
  rw [eval_hole rfl] at heval
  have htext := congrArg Safe.text (Except.ok.inj heval)
  exact absurd htext (by decide +kernel)

end Template
end BracketMark
