import Mathlib
import BracketMark.Proofs.Tag.Links
import BracketMark.Proofs.Document.Standard

/-!
# Targets of links and images

Targets come from markup, and a page may only have one that was accepted.  A link keeps to
this: it has an accepted target, or else nothing of it shows but its contents.  An image does
not.  Its hook binds the text inside as the source when that is accepted, but when it is
refused the hook leaves the source alone, and a keyword argument may have bound it already
(`keywordSource?`).  This is the only way to a target that was not accepted, whatever the markup
and wherever the tag stands.
-/

namespace BracketMark
namespace Document

open Html Tag Template

/-- A target that is accepted as it stands. -/
def IsVetted (target : String) : Prop :=
  Links.safeTarget target.toList = some target.toList

instance (target : String) : Decidable (IsVetted target) :=
  inferInstanceAs (Decidable (_ = _))

/-- The HTML that rendering a document on a stage gives. -/
def Gives (tree : Tree) (stage : Stage .standard File.Files) (html : String) : Prop :=
  ((tree.render (shelfSource .standard)).run stage).1 = .ok ⟨html⟩

/-- What a link should show: its contents with a vetted target, or if the target is refused,
    exactly its contents. -/
def LinkIsVetted (args : Arguments) (contents : Tree) (stage : Stage .standard File.Files) : Prop :=
  ∃ inner, Gives contents stage.inside inner ∧
    match linkTarget? args contents.plainText with
    | some href =>
      IsVetted href ∧ Gives (.tag Links.url args contents) stage (linkHtml (some href) inner)
    | none => Gives (.tag Links.url args contents) stage inner

/-- What an image should show: a vetted source, or if the text inside is refused, nothing. -/
def ImageIsVetted (args : Arguments) (contents : Tree) (stage : Stage .standard File.Files) : Prop :=
  match textTarget? contents.plainText with
  | some src =>
    IsVetted src ∧ ∃ alt? width? height?,
      Gives (.tag Links.img args contents) stage (imageHtml (some src) alt? width? height?)
  | none => Gives (.tag Links.img args contents) stage ""

/-- The source that an image takes from a keyword because the text inside is refused. -/
def keywordSource? (args : Arguments) (text : String) : Option String :=
  match textTarget? text with
  | some _ => none
  | none => shown (args.keyword? "src")

/-! ## What is accepted -/

theorem isVetted_of_accepted {text accepted : String}
    (h : (Links.safeTarget text.toList).map String.ofList = some accepted) :
    IsVetted accepted := by
  obtain ⟨target, htarget, rfl⟩ := Option.map_eq_some_iff.1 h
  rw [IsVetted, String.toList_ofList]
  exact Links.safeTarget_accepted htarget

theorem shown_of_accepted {text accepted : String}
    (h : (Links.safeTarget text.toList).map String.ofList = some accepted) :
    shown (some accepted) = some accepted := by
  obtain ⟨target, htarget, rfl⟩ := Option.map_eq_some_iff.1 h
  have hne : String.ofList target ≠ "" := fun hempty =>
    (Links.safeTarget_eq_some htarget).2 (String.ofList_eq_empty_iff.1 hempty)
  exact Option.filter_eq_some_iff.2 ⟨rfl, bne_iff_ne.2 hne⟩

/-! ## What is shown -/

theorem gives_html {tree : Tree} {stage : Stage .standard File.Files} (htree : tree.IsStandard)
    (hstage : stage.IsStandard) : Gives tree stage tree.html := by
  obtain ⟨stage', hrun, -⟩ := render_standard htree stage hstage
  rw [Gives, hrun]

theorem gives_unique {tree : Tree} {stage : Stage .standard File.Files} {html html' : String}
    (h : Gives tree stage html) (h' : Gives tree stage html') : html = html' :=
  congrArg Safe.text (Except.ok.inj (h.symm.trans h'))

theorem imageHtml_ne_empty (src : String) (alt? width? height? : Option String) :
    imageHtml (some src) alt? width? height? ≠ "" := by
  simp [imageHtml]

theorem linkIsVetted {args : Arguments} {contents : Tree} {stage : Stage .standard File.Files}
    (htree : (Tree.tag Links.url args contents).IsStandard) (hstage : stage.IsStandard) :
    LinkIsVetted args contents stage := by
  have hgives := gives_html htree hstage
  have hhtml : (Tree.tag Links.url args contents).html =
      linkHtml (shown (linkTarget? args contents.plainText)) contents.html := by
    rw [Tree.html]
    rfl
  rw [hhtml] at hgives
  cases htree with
  | tag _ _ hcontents =>
    refine ⟨contents.html, gives_html hcontents (isStandard_inside hstage), ?_⟩
    cases htarget : linkTarget? args contents.plainText with
    | none =>
      rw [htarget] at hgives
      exact hgives
    | some href =>
      rw [htarget, shown_of_accepted htarget] at hgives
      exact ⟨isVetted_of_accepted htarget, hgives⟩

/-- The HTML of an image, by the source it shows. -/
theorem html_img (args : Arguments) (contents : Tree) :
    (Tree.tag Links.img args contents).html =
      imageHtml (shown (imageSource? args contents.plainText)) (shown (args.keyword? "alt"))
        (shown (dimension? args "width")) (shown (dimension? args "height")) := by
  rw [Tree.html]
  rfl

theorem imageIsVetted_iff {args : Arguments} {contents : Tree} {stage : Stage .standard File.Files}
    (htree : (Tree.tag Links.img args contents).IsStandard) (hstage : stage.IsStandard) :
    ImageIsVetted args contents stage ↔ keywordSource? args contents.plainText = none := by
  have hgives := gives_html htree hstage
  rw [html_img, imageSource?] at hgives
  rw [ImageIsVetted, keywordSource?]
  cases htext : textTarget? contents.plainText with
  | some src =>
    rw [htext, Option.some_or, shown_of_accepted htext] at hgives
    exact iff_of_true ⟨isVetted_of_accepted htext, _, _, _, hgives⟩ rfl
  | none =>
    -- the hook has bound nothing, so the source is what the keyword says
    rw [htext, Option.none_or] at hgives
    cases hkeyword : shown (args.keyword? "src") with
    | none =>
      rw [hkeyword] at hgives
      exact iff_of_true hgives rfl
    | some src =>
      rw [hkeyword] at hgives
      have hnonempty : ¬Gives (.tag Links.img args contents) stage "" := by
        intro hempty
        exact imageHtml_ne_empty src _ _ _ (gives_unique hgives hempty)
      exact iff_of_false hnonempty (by simp)

theorem gives_keywordSource {args : Arguments} {contents : Tree} {stage : Stage .standard File.Files}
    {src : String} (htree : (Tree.tag Links.img args contents).IsStandard)
    (hstage : stage.IsStandard) (hsrc : keywordSource? args contents.plainText = some src) :
    ∃ alt? width? height?,
      Gives (.tag Links.img args contents) stage (imageHtml (some src) alt? width? height?) := by
  have hgives := gives_html htree hstage
  rw [html_img, imageSource?] at hgives
  rw [keywordSource?] at hsrc
  split at hsrc
  case h_1 => cases hsrc
  case h_2 htext =>
    rw [htext, Option.none_or, hsrc] at hgives
    exact ⟨_, _, _, hgives⟩

/-- **Targets are vetted but for one case.**  Whatever the markup, rendering comes to every tag of
    its document.  Every link shows as it should, and an image does exactly if it does not take
    its source from a keyword.  An image that does shows that source as it is. -/
theorem vetted_of_partOf {markup : String} {tree node : Tree}
    (hcompile : (Engine.standard.compile markup).1 = .ok tree) (hpart : node.PartOf tree) :
    (∃ stage, Reaches (shelfSource .standard) tree startStage node stage) ∧
    ∀ stage, Reaches (shelfSource .standard) tree startStage node stage →
      (∀ args contents, node = .tag Links.url args contents →
        LinkIsVetted args contents stage) ∧
      ∀ args contents, node = .tag Links.img args contents →
        (ImageIsVetted args contents stage ↔ keywordSource? args contents.plainText = none) ∧
        ∀ src, keywordSource? args contents.plainText = some src → ∃ alt? width? height?,
          Gives node stage (imageHtml (some src) alt? width? height?) := by
  have htree := isStandard_of_compile hcompile
  refine ⟨exists_reaches hpart htree isStandard_startStage, ?_⟩
  intro stage hreach
  obtain ⟨hnode, hstage⟩ := isStandard_of_reaches hreach htree isStandard_startStage
  refine ⟨?_, ?_⟩
  · rintro args contents rfl
    exact linkIsVetted hnode hstage
  · rintro args contents rfl
    refine ⟨imageIsVetted_iff hnode hstage, ?_⟩
    intro src hsrc
    exact gives_keywordSource hnode hstage hsrc

/-- A refused image that is given a source by a keyword. -/
def forcedImage : Tree :=
  .tag Links.img (.keywords (.ofList [("src", "javascript:x")])) (.literal "javascript:y")

theorem compile_forcedImage :
    (Engine.standard.compile "[img src=javascript:x]javascript:y[/img]").1 = .ok forcedImage := by
  cbv

/-- The forced image shows a source, and a source that is not accepted. -/
theorem vetted_of_partOf_forcedImage :
    (Engine.standard.compile "[img src=javascript:x]javascript:y[/img]").1 = .ok forcedImage ∧
      forcedImage.PartOf forcedImage ∧
        (¬IsVetted "javascript:x" ∧ ∃ alt? width? height?, Gives forcedImage startStage
          (imageHtml (some "javascript:x") alt? width? height?)) := by
  have hvetted := (vetted_of_partOf compile_forcedImage .refl).2 startStage .here
  refine ⟨compile_forcedImage, .refl, by decide, ?_⟩
  exact (hvetted.2 _ _ rfl).2 "javascript:x" (by decide)

/-- It is not what an image should show. -/
theorem not_imageIsVetted_forcedImage :
    ¬∀ markup tree, (Engine.standard.compile markup).1 = .ok tree →
      ∀ node stage, Reaches (shelfSource .standard) tree startStage node stage →
        ∀ args contents, node = .tag Links.img args contents →
          ImageIsVetted args contents stage := by
  intro h
  have hvetted := h _ _ compile_forcedImage _ _ .here _ _ rfl
  have hnone := (imageIsVetted_iff (isStandard_of_compile compile_forcedImage)
    isStandard_startStage).1 hvetted
  exact absurd hnone (by decide)

end Document
end BracketMark
