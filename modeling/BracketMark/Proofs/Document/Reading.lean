import BracketMark.Proofs.Document.Injection
import BracketMark.Proofs.Html.InnerText

/-!
# The text of a document

What a reader of a document gets to read is the text of its literals, in order, and the authors of
its quotations; an image has no text (`Tree.reading`).  The HTML of a document has this text, no
more and no less, and escaped once (`innerText_of_toHtml`).

A built-in tag adds elements around its contents or leaves them alone, whatever its arguments are.
So a tag takes a run over the characters of the HTML from outside of tags to outside of tags again,
and what it leaves in between is what its contents leave, but for the author of a quotation and
for the contents of an image, which do not show.
-/

namespace BracketMark
namespace Document

open Html Tag Template

/-! ## Reading a document -/

/-- What is read of a tag, of its arguments and of what is read of its contents. -/
def tagReading (name : String) (args : Arguments) (inner : String) : String :=
  match name with
  | "img" => ""
  | "quote" => args.arg?.getD "" ++ inner
  | _ => inner

mutual

/-- The text of a document, its line breaks of one style. -/
def Tree.reading : Tree → String
  | .literal text => String.ofList (lineFeeds text.toList)
  | .block children => readings children
  | .tag d args contents => tagReading d.name args contents.reading

/-- The text of documents, one after another. -/
def readings : List Tree → String
  | [] => ""
  | tree :: trees => tree.reading ++ readings trees

end

/-! ## Tags -/

variable {inner text : String}

theorem takes_elementHtml (element : String)
    (hopening : Takes false false ("<" ++ element ++ ">") "") (hname : Takes true true element "")
    (hinner : Takes false false inner text) :
    Takes false false (elementHtml element inner) text := by
  have hclosing : Takes false true "</" "" := fun _ => rfl
  have hend : Takes true false ">" "" := fun _ => rfl
  have h := (((hopening.append hinner).append hclosing).append hname).append hend
  simp only [String.empty_append, String.append_empty] at h
  exact h

/-- A tag that puts an element around its contents if it has a value for it. -/
theorem takes_markedHtml (start stop : String) (hstart : Takes false true start "")
    (hstop : Takes false false stop "") (value? : Option String)
    (hinner : Takes false false inner text) :
    Takes false false (markedHtml start stop value? inner) text := by
  cases value? with
  | none => exact hinner
  | some value =>
    have hend : Takes true false "\">" "" := fun _ => rfl
    have h := (((hstart.append (takes_escape_inside value)).append hend).append hinner).append hstop
    simp only [String.empty_append, String.append_empty] at h
    exact h

theorem takes_attributeHtml (name : String) (hname : Takes true true (" " ++ name ++ "=\"") "")
    (value? : Option String) : Takes true true (attributeHtml name value?) "" := by
  cases value? with
  | none => exact takes_empty
  | some value =>
    have hend : Takes true true "\"" "" := fun _ => rfl
    exact (hname.append (takes_escape_inside value)).append hend

theorem takes_imageHtml (src? alt? width? height? : Option String) :
    Takes false false (imageHtml src? alt? width? height?) "" := by
  cases src? with
  | none => exact takes_empty
  | some src =>
    have hstart : Takes false true "<img src=\"" "" := fun _ => rfl
    have hquote : Takes true true "\"" "" := fun _ => rfl
    have hend : Takes true false ">" "" := fun _ => rfl
    have halt := takes_attributeHtml "alt" (fun _ => rfl) alt?
    have hwidth := takes_attributeHtml "width" (fun _ => rfl) width?
    have hheight := takes_attributeHtml "height" (fun _ => rfl) height?
    exact (((((hstart.append (takes_escape_inside src)).append hquote).append halt).append
      hwidth).append hheight).append hend

theorem takes_citeHtml (author? : Option String) :
    Takes false false (citeHtml (shown author?)) (author?.getD "") := by
  have hopening : Takes false false "<cite>" "" := fun _ => rfl
  have hclosing : Takes false false "</cite>" "" := fun _ => rfl
  cases author? with
  | none => exact takes_empty
  | some author =>
    show Takes false false _ author
    by_cases hauthor : author = ""
    · subst hauthor
      exact takes_empty
    · have hshown : shown (some author) = some author :=
        Option.filter_eq_some_iff.2 ⟨rfl, bne_iff_ne.2 hauthor⟩
      have h := (hopening.append (takes_escape author)).append hclosing
      rw [hshown]
      simp only [String.empty_append, String.append_empty] at h
      exact h

theorem takes_quotationHtml (author? : Option String) (hinner : Takes false false inner text) :
    Takes false false (quotationHtml (shown author?) inner) (author?.getD "" ++ text) := by
  have hopening : Takes false false "<blockquote>" "" := fun _ => rfl
  have hclosing : Takes false false "</blockquote>" "" := fun _ => rfl
  have h := ((hopening.append (takes_citeHtml author?)).append hinner).append hclosing
  simp only [String.empty_append, String.append_empty] at h
  exact h

/-- A built-in tag shows what is read of it. -/
theorem takes_tagHtml {d : Definition} (hd : d ∈ standardTags) (args : Arguments) (raw : String)
    (hinner : Takes false false inner text) :
    Takes false false (tagHtml d.name args raw inner) (tagReading d.name args text) := by
  simp only [standardTags, List.mem_cons, List.not_mem_nil, or_false] at hd
  rcases hd with rfl | rfl | rfl | rfl | rfl | rfl | rfl | rfl | rfl
  · exact takes_elementHtml "strong" (fun _ => rfl) (fun _ => rfl) hinner
  · exact takes_elementHtml "em" (fun _ => rfl) (fun _ => rfl) hinner
  · exact takes_elementHtml "u" (fun _ => rfl) (fun _ => rfl) hinner
  · exact takes_elementHtml "del" (fun _ => rfl) (fun _ => rfl) hinner
  · exact takes_elementHtml "code" (fun _ => rfl) (fun _ => rfl) hinner
  · exact takes_markedHtml "<span style=\"color: " "</span>" (fun _ => rfl) (fun _ => rfl) _ hinner
  · exact takes_markedHtml "<a href=\"" "</a>" (fun _ => rfl) (fun _ => rfl) _ hinner
  · exact takes_imageHtml _ _ _ _
  · exact takes_quotationHtml _ hinner

/-! ## Documents -/

theorem takes_htmls {trees : List Tree}
    (h : ∀ tree ∈ trees, Takes false false tree.html tree.reading) :
    Takes false false (htmls trees) (readings trees) := by
  induction trees with
  | nil =>
    rw [htmls, readings]
    exact takes_empty
  | cons tree trees ih =>
    rw [htmls, readings]
    exact (h tree List.mem_cons_self).append
      (ih fun other hmem => h other (List.mem_cons_of_mem tree hmem))

/-- The HTML of a standard document shows what is read of it. -/
theorem takes_html {tree : Tree} (h : tree.IsStandard) :
    Takes false false tree.html tree.reading := by
  induction h with
  | literal text =>
    rw [Tree.html, Tree.reading]
    exact takes_literal text
  | block _ ih =>
    rw [Tree.html, Tree.reading]
    exact takes_htmls ih
  | tag hd _ _ ih =>
    rw [Tree.html, Tree.reading]
    exact takes_tagHtml hd _ _ ih

end Document

open Document Html Tag

/-- **No text is lost, repeated or escaped twice.**  Whenever markup has HTML, the text in the HTML
    is the text of the document that the markup compiles to. -/
theorem innerText_of_toHtml {markup : String} {html : Safe} (h : toHtml markup = .ok html) :
    ∃ tree, (Engine.standard.compile markup).1 = .ok tree ∧
      innerText html.text = tree.reading := by
  obtain ⟨tree, hcompile, rfl⟩ := exists_of_toHtml_ok h
  exact ⟨tree, hcompile, innerText_eq (takes_html (isStandard_of_compile hcompile))⟩

theorem innerText_of_toHtml_quotation :
    toHtml "[quote=<A>]1 < 2\r\n[b]![/b][/quote]" =
        .ok ⟨"<blockquote><cite>&lt;A&gt;</cite>1 &lt; 2<br><strong>!</strong></blockquote>"⟩ ∧
      innerText "<blockquote><cite>&lt;A&gt;</cite>1 &lt; 2<br><strong>!</strong></blockquote>" =
        "<A>1 < 2\n!" := by
  obtain ⟨tree, hcompile, htext⟩ := innerText_of_toHtml toHtml_quotation
  cases hcompile.symm.trans compile_quotation
  refine ⟨toHtml_quotation, htext.trans ?_⟩
  cbv

end BracketMark
