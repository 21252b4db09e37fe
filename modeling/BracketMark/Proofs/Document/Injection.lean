import Mathlib
import BracketMark.Proofs.Html.Flow
import BracketMark.Proofs.Document.Standard

/-!
# No markup injection

The HTML of every document with the built-in tags is a word of the grammar of finished HTML,
whatever the markup was.  Each tag adds an element around finished HTML, and what it takes from
arguments and text is either escaped, or checked so narrowly that there is nothing to escape:
a colour and a number of pixels hold no character that means anything in markup.
-/

namespace BracketMark

open Html Tag Template Document

/-! ## Checked values -/

namespace Tag

theorem not_isSpecial_of_isColor {cs : List Char} (h : Formatting.isColor cs = true) :
    ∀ c ∈ cs, isSpecial c = false := by
  rw [Formatting.isColor.eq_def] at h
  split at h
  case h_1 digits =>
    rw [Bool.and_eq_true, List.all_eq_true] at h
    have hdigits : ∀ c ∈ digits, isSpecial c = false := by
      intro c hc
      exact not_isSpecial rfl (h.2 c hc)
    exact List.forall_mem_cons.2 ⟨rfl, hdigits⟩
  case h_2 =>
    rw [Bool.and_eq_true, List.all_eq_true] at h
    intro c hc
    exact not_isSpecial rfl (h.2 c hc)

theorem not_isSpecial_of_isPixels {cs : List Char} (h : Links.isPixels cs = true) :
    ∀ c ∈ cs, isSpecial c = false := by
  have hdigits {ds : List Char} (h : ds.all Char.isDigit = true) :
      ∀ c ∈ ds, isSpecial c = false := by
    intro c hc
    exact not_isSpecial rfl (List.all_eq_true.1 h c hc)
  rw [Links.isPixels.eq_def, Bool.and_eq_true, Bool.and_eq_true] at h
  have hall := h.1.2
  split at hall
  case h_1 rest => exact List.forall_mem_cons.2 ⟨rfl, hdigits hall⟩
  case h_2 => exact hdigits hall

end Tag

/-! ## Tags -/

namespace Document

variable {args : Arguments} {text inner : String}

theorem eq_of_shown {text? : Option String} (h : shown text? = some text) : text? = some text :=
  (Option.filter_eq_some_iff.1 h).1

theorem flow_elementHtml {element : String} (helement : element ∈ plainElements)
    (hinner : Flow inner) : Flow (elementHtml element inner) := by
  have h := Flow.element helement hinner .empty
  rwa [String.append_empty] at h

theorem flow_colorHtml (args : Arguments) (hinner : Flow inner) :
    Flow (colorHtml (shown (tagColor? args)) inner) := by
  cases hshown : shown (tagColor? args) with
  | none => exact hinner
  | some color =>
    have hcolor := (Option.filter_eq_some_iff.1 (eq_of_shown hshown)).2
    have h := Flow.span hcolor hinner .empty
    rw [String.append_empty] at h
    rw [colorHtml, markedHtml, escape_eq_self (not_isSpecial_of_isColor hcolor)]
    exact h

theorem flow_linkHtml (href? : Option String) (hinner : Flow inner) :
    Flow (linkHtml href? inner) := by
  cases href? with
  | none => exact hinner
  | some href =>
    have h := Flow.link (escaped_escape href) hinner .empty
    rwa [String.append_empty] at h

theorem attribute_escaped (name : String) (value? : Option String) :
    Attribute name Escaped (attributeHtml name value?) := by
  cases value? with
  | none => exact .absent
  | some value => exact .present (escaped_escape value)

theorem attribute_dimension (name : String) (args : Arguments) (key : String) :
    Attribute name IsDimension (attributeHtml name (shown (dimension? args key))) := by
  cases hshown : shown (dimension? args key) with
  | none => exact .absent
  | some value =>
    have hvalue : IsDimension value := (Option.filter_eq_some_iff.1 (eq_of_shown hshown)).2
    rw [attributeHtml, escape_eq_self (not_isSpecial_of_isPixels hvalue)]
    exact .present hvalue

theorem flow_imageHtml (src? alt? : Option String) (args : Arguments) :
    Flow (imageHtml src? alt? (shown (dimension? args "width"))
      (shown (dimension? args "height"))) := by
  cases src? with
  | none => exact .empty
  | some src =>
    have h := Flow.image (escaped_escape src) (attribute_escaped "alt" alt?)
      (attribute_dimension "width" args "width") (attribute_dimension "height" args "height")
      .empty
    rwa [String.append_empty] at h

theorem cite_citeHtml (author? : Option String) : Cite (citeHtml author?) := by
  cases author? with
  | none => exact .absent
  | some author => exact .present (escaped_escape author)

theorem flow_quotationHtml (author? : Option String) (hinner : Flow inner) :
    Flow (quotationHtml author? inner) := by
  have h := Flow.quotation (cite_citeHtml author?) hinner .empty
  rwa [String.append_empty] at h

/-- A built-in tag around finished HTML is finished HTML. -/
theorem flow_tagHtml {d : Definition} (hd : d ∈ standardTags) (args : Arguments) (text : String)
    (hinner : Flow inner) : Flow (tagHtml d.name args text inner) := by
  simp only [standardTags, List.mem_cons, List.not_mem_nil, or_false] at hd
  rcases hd with rfl | rfl | rfl | rfl | rfl | rfl | rfl | rfl | rfl
  · exact flow_elementHtml (by decide) hinner
  · exact flow_elementHtml (by decide) hinner
  · exact flow_elementHtml (by decide) hinner
  · exact flow_elementHtml (by decide) hinner
  · exact flow_elementHtml (by decide) hinner
  · exact flow_colorHtml args hinner
  · exact flow_linkHtml _ hinner
  · exact flow_imageHtml _ _ args
  · exact flow_quotationHtml _ hinner

/-! ## Documents -/

theorem flow_htmls {trees : List Tree} (h : ∀ tree ∈ trees, Flow tree.html) :
    Flow (htmls trees) := by
  induction trees with
  | nil =>
    rw [htmls]
    exact .empty
  | cons tree trees ih =>
    rw [htmls]
    exact (h tree List.mem_cons_self).append
      (ih fun other hmem => h other (List.mem_cons_of_mem tree hmem))

/-- The HTML of a standard document is finished HTML. -/
theorem flow_html {tree : Tree} (h : tree.IsStandard) : Flow tree.html := by
  induction h with
  | literal text =>
    rw [Tree.html]
    exact flow_literal text
  | block _ ih =>
    rw [Tree.html]
    exact flow_htmls ih
  | tag hd _ _ ih =>
    rw [Tree.html]
    exact flow_tagHtml hd _ _ ih

end Document

/-- **Markup cannot inject HTML.**  Whenever markup has HTML, this is finished HTML. -/
theorem flow_of_toHtml {markup : String} {html : Safe} (h : toHtml markup = .ok html) :
    Flow html.text := by
  obtain ⟨tree, hcompile, rfl⟩ := exists_of_toHtml_ok h
  exact flow_html (isStandard_of_compile hcompile)

theorem compile_quotation :
    (Engine.standard.compile "[quote=<A>]1 < 2\r\n[b]![/b][/quote]").1 =
      .ok (.tag Quotation.quote (.positional "<A>")
        (.block [.literal "1 < 2\r\n", .tag Formatting.bold .none (.literal "!")])) := by
  cbv

theorem toHtml_quotation : toHtml "[quote=<A>]1 < 2\r\n[b]![/b][/quote]" =
    .ok ⟨"<blockquote><cite>&lt;A&gt;</cite>1 &lt; 2<br><strong>!</strong></blockquote>"⟩ := by
  rw [toHtml_of_compile compile_quotation]
  cbv

theorem flow_of_toHtml_quotation :
    toHtml "[quote=<A>]1 < 2\r\n[b]![/b][/quote]" =
        .ok ⟨"<blockquote><cite>&lt;A&gt;</cite>1 &lt; 2<br><strong>!</strong></blockquote>"⟩ ∧
      Flow "<blockquote><cite>&lt;A&gt;</cite>1 &lt; 2<br><strong>!</strong></blockquote>" :=
  ⟨toHtml_quotation, flow_of_toHtml toHtml_quotation⟩

end BracketMark
