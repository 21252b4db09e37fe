import BracketMark.Proofs.Document.Run
import BracketMark.Proofs.Tag.Standard
import BracketMark.Proofs.Template.Applied

/-!
# What the built-in tags show

A built-in tag shows one function of its arguments, of the text inside it and of the HTML of
its contents (`tagHtml`).  For each of the nine the bindings, the hook and the template are
followed once here, and `eval_standardTag` says that together they come to this function.

The arguments are of the kind that the tag asks for (`Admits`), as they are in every document
that was built.  A tag that takes no keywords can then not be given a binding by one.
-/

namespace BracketMark

open Html Tag Template Text

/-! ## Arguments -/

namespace Tag

/-- Whether arguments are of the kind that a contract asks for, or none. -/
def Contract.Admits : Contract → Arguments → Prop
  | _, .none => True
  | .positional, .positional _ => True
  | .keywords, .keywords _ => True
  | _, _ => False

theorem admits_select (contract : Contract) (arg : Option String) (kwargs : Dict String) :
    contract.Admits (.select contract arg kwargs) := by
  cases contract with
  | none => trivial
  | positional =>
    cases arg with
    | none => trivial
    | some arg =>
      rw [Arguments.select]
      split
      · trivial
      · trivial
  | keywords =>
    rw [Arguments.select]
    split
    · trivial
    · trivial

def Arguments.keyword? (args : Arguments) (key : String) : Option String :=
  args.kwargs?.bind (·.get? key)

theorem keyword?_of_admits_positional {args : Arguments} (h : Contract.positional.Admits args)
    (key : String) : args.keyword? key = none := by
  cases args with
  | none => rfl
  | positional arg => rfl
  | keywords kwargs => exact h.elim

end Tag

/-! ## HTML of a tag -/

namespace Document

/-- The colour that a tag's argument is, if it is one. -/
def tagColor? (args : Arguments) : Option String :=
  (args.arg?.map fun arg => String.ofList (trim arg.toList)).filter
    fun color => Formatting.isColor color.toList

/-- The target of a link: its argument, or else the text inside, if that is accepted. -/
def linkTarget? (args : Arguments) (text : String) : Option String :=
  (Links.safeTarget (args.arg?.getD text).toList).map String.ofList

/-- The text inside a tag, if it is accepted as a target. -/
def textTarget? (text : String) : Option String :=
  (Links.safeTarget text.toList).map String.ofList

/-- The source of an image: the text inside, if that is accepted, or else the keyword. -/
def imageSource? (args : Arguments) (text : String) : Option String :=
  (textTarget? text).or (args.keyword? "src")

/-- A dimension of an image, if it is a number of pixels. -/
def dimension? (args : Arguments) (key : String) : Option String :=
  (args.keyword? key).filter fun value => Links.isPixels value.toList

/-- What a built-in tag shows, of its arguments, the text inside and the HTML of its contents. -/
def tagHtml (name : String) (args : Arguments) (text inner : String) : String :=
  match name with
  | "b" => elementHtml "strong" inner
  | "i" => elementHtml "em" inner
  | "u" => elementHtml "u" inner
  | "s" => elementHtml "del" inner
  | "code" => elementHtml "code" inner
  | "color" => colorHtml (shown (tagColor? args)) inner
  | "url" => linkHtml (shown (linkTarget? args text)) inner
  | "img" =>
    imageHtml (shown (imageSource? args text)) (shown (args.keyword? "alt"))
      (shown (dimension? args "width")) (shown (dimension? args "height"))
  | "quote" => quotationHtml (shown args.arg?) inner
  | _ => inner

/-! ## Bindings of a tag -/

variable {args : Arguments} {tag : Occurrence} {inner key : String} {frame : Frame}
  {below : List Frame}

theorem argumentValue?_arg (args : Arguments) :
    argumentValue? args "arg" = args.arg?.map .text := by
  cases args with
  | none => rfl
  | positional arg => rfl
  | keywords kwargs => rfl

theorem argumentValue?_keyword (args : Arguments) (hkey : reservedKeys.contains key = false) :
    argumentValue? args key = (args.keyword? key).map .text := by
  cases args with
  | none => rfl
  | positional arg =>
    rw [argumentValue?, if_neg]
    · rfl
    · rintro rfl
      cases hkey
  | keywords kwargs =>
    rw [argumentValue?, hkey]
    rfl

theorem get?_tagFrame_contents (args : Arguments) (inner : Safe) :
    (tagFrame args inner).get? "contents" = some (.safe inner) := by
  rw [tagFrame, get?_argumentFrame]
  cases args with
  | none => rfl
  | positional arg => rfl
  | keywords kwargs => rfl

theorem get?_tagFrame_arg (args : Arguments) (inner : Safe) :
    (tagFrame args inner).get? "arg" = args.arg?.map .text := by
  rw [tagFrame, get?_argumentFrame, argumentValue?_arg]
  exact Option.or_none

theorem get?_tagFrame_keyword (args : Arguments) (inner : Safe)
    (hkey : reservedKeys.contains key = false) :
    (tagFrame args inner).get? key = (args.keyword? key).map .text := by
  have hcontents : key ≠ "contents" := by
    rintro rfl
    cases hkey
  rw [tagFrame, get?_argumentFrame, argumentValue?_keyword args hkey, Dict.get?_insert,
    if_neg hcontents]
  exact Option.or_none

/-! ## Hooks of a tag -/

/-- A frame with a name bound to a text, if there is one. -/
def bindSome (frame : Frame) (key : String) (text? : Option String) : Frame :=
  match text? with
  | some text => frame.insert key (.text text)
  | none => frame

/-- A text that is bound hides what the name stood for. -/
theorem get?_bindSome_self {old? : Option String} (h : frame.get? key = old?.map .text)
    (text? : Option String) :
    (bindSome frame key text?).get? key = (text?.or old?).map .text := by
  cases text? with
  | none => exact h
  | some text =>
    rw [bindSome, Dict.get?_insert, if_pos rfl]
    rfl

theorem get?_bindSome_of_ne {key' : String} (h : key' ≠ key) (text? : Option String) :
    (bindSome frame key text?).get? key' = frame.get? key' := by
  cases text? with
  | none => rfl
  | some text => rw [bindSome, Dict.get?_insert, if_neg h]

theorem playScript_bindColor (occurrence : Occurrence) (frame : Frame) :
    playScript below (Formatting.bindColor occurrence) frame =
      .ok (bindSome frame "color" (tagColor? occurrence.args)) := by
  rw [Formatting.bindColor, tagColor?]
  cases occurrence.args.arg? with
  | none => rfl
  | some arg =>
    rw [Option.map_some, Option.filter_some, String.toList_ofList]
    show playScript below (if Formatting.isColor (trim arg.toList) = true then _ else _) frame = _
    split
    · rfl
    · rfl

theorem playScript_bindHref (occurrence : Occurrence) (frame : Frame) :
    playScript below (Links.bindHref occurrence) frame =
      .ok (bindSome frame "href" (linkTarget? occurrence.args occurrence.text)) := by
  rw [Links.bindHref, linkTarget?]
  cases Links.safeTarget (occurrence.args.arg?.getD occurrence.text).toList with
  | none => rfl
  | some target => rfl

/-- A frame without a dimension that is no number of pixels. -/
def checkedFrame (args : Arguments) (key : String) (frame : Frame) : Frame :=
  if (dimension? args key).isSome then frame else frame.erase key

theorem playScript_checkDimension (args : Arguments) (key : String) (next : Script)
    (frame : Frame) :
    playScript below (Links.checkDimension args key next) frame =
      playScript below next (checkedFrame args key frame) := by
  rw [Links.checkDimension, checkedFrame, dimension?, Arguments.keyword?]
  cases args.kwargs?.bind (·.get? key) with
  | none => rfl
  | some value =>
    by_cases hpixels : Links.isPixels value.toList = true
    · simp [hpixels]
    · simp [hpixels, playScript]

theorem get?_checkedFrame_self (h : frame.get? key = (args.keyword? key).map .text) :
    (checkedFrame args key frame).get? key = (dimension? args key).map .text := by
  rw [checkedFrame]
  cases hdimension : dimension? args key with
  | none =>
    rw [if_neg (by simp), Dict.get?_erase, if_pos rfl]
    rfl
  | some value =>
    rw [if_pos (by simp), h, (Option.filter_eq_some_iff.1 hdimension).1]

theorem get?_checkedFrame_of_ne {key' : String} (h : key' ≠ key) :
    (checkedFrame args key frame).get? key' = frame.get? key' := by
  rw [checkedFrame]
  split
  · rfl
  · rw [Dict.get?_erase, if_neg h]

theorem playScript_bindSrc (occurrence : Occurrence) (frame : Frame) :
    playScript below (Links.bindSrc occurrence) frame =
      .ok (checkedFrame occurrence.args "height" (checkedFrame occurrence.args "width"
        (bindSome frame "src" (textTarget? occurrence.text)))) := by
  rw [Links.bindSrc, textTarget?]
  cases Links.safeTarget occurrence.text.toList with
  | none =>
    show playScript below (Links.checkDimension _ _ _) frame = _
    rw [playScript_checkDimension, playScript_checkDimension]
    rfl
  | some src =>
    show playScript below (Links.checkDimension _ _ _) (frame.insert _ _) = _
    rw [playScript_checkDimension, playScript_checkDimension]
    rfl

/-! ## Tags -/

/-- `Shows d tag inner`: whatever frames there are around it, the hook of the tag leaves a frame
    against which the template of the tag gives its HTML. -/
def Shows (d : Definition) (tag : Occurrence) (inner : String) : Prop :=
  ∀ below, ∃ frame parts,
    playHook d tag below (tagFrame tag.args ⟨inner⟩) = .ok frame ∧
      (d.template, parts) ∈ builtinParts ∧
        evalParts true frame parts = .ok (tagHtml d.name tag.args tag.text inner)

/-- A tag without a hook around its contents. -/
theorem shows_wrapper {d : Definition} (element : String) (hhook : d.hook? = none)
    (htemplate : (d.template, wrapperParts element) ∈ builtinParts)
    (hhtml : tagHtml d.name tag.args tag.text inner = elementHtml element inner) :
    Shows d tag inner := by
  intro below
  refine ⟨tagFrame tag.args ⟨inner⟩, wrapperParts element, ?_, htemplate, ?_⟩
  · rw [playHook, hhook]
  · rw [hhtml]
    exact evalParts_wrapper element (get?_tagFrame_contents tag.args _)

/-- A tag whose hook may bind one name, which no argument of the tag can bind. -/
theorem shows_marked {d : Definition} {hook : Hook} {name start stop : String}
    {value? : Option String} (hargs : Contract.positional.Admits tag.args)
    (hhook? : d.hook? = some hook)
    (hhook : ∀ below frame, playScript below (hook tag) frame = .ok (bindSome frame name value?))
    (hname : reservedKeys.contains name = false) (hfunction : Function.ofName? name = none)
    (htemplate : (d.template, markedParts name start stop) ∈ builtinParts)
    (hhtml : tagHtml d.name tag.args tag.text inner =
      markedHtml start stop (shown value?) inner) : Shows d tag inner := by
  intro below
  refine ⟨bindSome (tagFrame tag.args ⟨inner⟩) name value?, markedParts name start stop, ?_,
    htemplate, ?_⟩
  · rw [playHook, hhook?]
    exact hhook below _
  · have hcontents : "contents" ≠ name := by
      rintro rfl
      cases hname
    -- only the hook can bind the name, for the tag takes no keywords
    have hfree : (tagFrame tag.args ⟨inner⟩).get? name = (none : Option String).map .text := by
      rw [get?_tagFrame_keyword tag.args _ hname, keyword?_of_admits_positional hargs]
    have hvalue := get?_bindSome_self hfree value?
    rw [Option.or_none] at hvalue
    rw [hhtml]
    refine evalParts_marked start stop ?_ hvalue hfunction
    rw [get?_bindSome_of_ne hcontents]
    exact get?_tagFrame_contents tag.args _

theorem shows_img (tag : Occurrence) (inner : String) : Shows Links.img tag inner := by
  intro below
  have hkeyword {key : String} (hkey : reservedKeys.contains key = false) :=
    get?_tagFrame_keyword tag.args ⟨inner⟩ hkey
  refine ⟨_, imageParts, playScript_bindSrc _ _, List.mem_of_getElem? (i := 7) rfl,
    evalParts_image ?_ ?_ ?_ ?_⟩
  · rw [get?_checkedFrame_of_ne (by decide), get?_checkedFrame_of_ne (by decide)]
    exact get?_bindSome_self (hkeyword (by decide)) _
  · rw [get?_checkedFrame_of_ne (by decide), get?_checkedFrame_of_ne (by decide),
      get?_bindSome_of_ne (by decide)]
    exact hkeyword (by decide)
  · rw [get?_checkedFrame_of_ne (by decide)]
    refine get?_checkedFrame_self ?_
    rw [get?_bindSome_of_ne (by decide)]
    exact hkeyword (by decide)
  · refine get?_checkedFrame_self ?_
    rw [get?_checkedFrame_of_ne (by decide), get?_bindSome_of_ne (by decide)]
    exact hkeyword (by decide)

theorem shows_quote (tag : Occurrence) (inner : String) : Shows Quotation.quote tag inner := by
  intro below
  exact ⟨tagFrame tag.args ⟨inner⟩, quotationParts, rfl, List.mem_of_getElem? (i := 8) rfl,
    evalParts_quotation (get?_tagFrame_contents tag.args _) (get?_tagFrame_arg tag.args _)⟩

/-- **Every built-in tag shows its HTML.** -/
theorem shows_of_mem {d : Definition} (hd : d ∈ standardTags) (tag : Occurrence)
    (hargs : d.contract.Admits tag.args) (inner : String) : Shows d tag inner := by
  simp only [standardTags, List.mem_cons, List.not_mem_nil, or_false] at hd
  rcases hd with rfl | rfl | rfl | rfl | rfl | rfl | rfl | rfl | rfl
  · exact shows_wrapper "strong" rfl (List.mem_of_getElem? (i := 0) rfl) rfl
  · exact shows_wrapper "em" rfl (List.mem_of_getElem? (i := 1) rfl) rfl
  · exact shows_wrapper "u" rfl (List.mem_of_getElem? (i := 2) rfl) rfl
  · exact shows_wrapper "del" rfl (List.mem_of_getElem? (i := 3) rfl) rfl
  · exact shows_wrapper "code" rfl (List.mem_of_getElem? (i := 4) rfl) rfl
  · exact shows_marked hargs rfl (fun _ _ => playScript_bindColor _ _) (by decide) (by decide)
      (List.mem_of_getElem? (i := 5) rfl) rfl
  · exact shows_marked hargs rfl (fun _ _ => playScript_bindHref _ _) (by decide) (by decide)
      (List.mem_of_getElem? (i := 6) rfl) rfl
  · exact shows_img tag inner
  · exact shows_quote tag inner

end Document
end BracketMark
