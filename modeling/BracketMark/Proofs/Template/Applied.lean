import BracketMark.Template.Eval
import BracketMark.Proofs.Template.Builtin

/-!
# The built-in templates applied

What a built-in template gives depends on the few names it asks for.  All of them but the
contents stand for plain texts, and an empty text counts as none (`shown`).  Each template is
one function of its texts here, so that what a document shows can be read off without a
frame.
-/

namespace BracketMark
namespace Template

open Html

/-! ## HTML of the tags -/

/-- A text as the templates see it: an empty one as none. -/
def shown (text? : Option String) : Option String :=
  text?.filter (· != "")

def elementHtml (element inner : String) : String :=
  "<" ++ element ++ ">" ++ inner ++ "</" ++ element ++ ">"

/-- HTML between two texts, with a value at the end of the first; the HTML alone if there is no
    value. -/
def markedHtml (start stop : String) (value? : Option String) (inner : String) : String :=
  match value? with
  | some value => start ++ (Safe.escape value).text ++ "\">" ++ inner ++ stop
  | none => inner

def colorHtml : Option String → String → String :=
  markedHtml "<span style=\"color: " "</span>"

def linkHtml : Option String → String → String :=
  markedHtml "<a href=\"" "</a>"

/-- An attribute, if it has a value. -/
def attributeHtml (name : String) (value? : Option String) : String :=
  match value? with
  | some value => " " ++ name ++ "=\"" ++ (Safe.escape value).text ++ "\""
  | none => ""

def imageHtml (src? alt? width? height? : Option String) : String :=
  match src? with
  | some src =>
    "<img src=\"" ++ (Safe.escape src).text ++ "\"" ++ attributeHtml "alt" alt? ++
      attributeHtml "width" width? ++ attributeHtml "height" height? ++ ">"
  | none => ""

/-- The author of a quotation, if there is one. -/
def citeHtml (author? : Option String) : String :=
  match author? with
  | some author => "<cite>" ++ (Safe.escape author).text ++ "</cite>"
  | none => ""

def quotationHtml (author? : Option String) (inner : String) : String :=
  "<blockquote>" ++ citeHtml author? ++ inner ++ "</blockquote>"

/-! ## Parts -/

variable {escaping : Bool} {frame : Frame} {name inner : String} {yes no parts : List Part}

theorem evalParts_nil : evalParts escaping frame [] = .ok "" := by
  rw [evalParts]

theorem evalParts_cons {part : Part} {text rest : String}
    (hpart : part.eval escaping frame = .ok text)
    (hparts : evalParts escaping frame parts = .ok rest) :
    evalParts escaping frame (part :: parts) = .ok (text ++ rest) := by
  rw [evalParts, hpart, hparts]
  rfl

theorem evalParts_singleton (part : Part) :
    evalParts escaping frame [part] = part.eval escaping frame := by
  cases h : part.eval escaping frame with
  | error e =>
    rw [evalParts, h]
    rfl
  | ok text => rw [evalParts_cons h evalParts_nil, String.append_empty]

theorem evalParts_text {text rest : String} (h : evalParts escaping frame parts = .ok rest) :
    evalParts escaping frame (.text text :: parts) = .ok (text ++ rest) :=
  evalParts_cons (by rw [Part.eval]) h

theorem evalParts_print {value : Value} {rest : String} (hname : frame.get? name = some value)
    (h : evalParts true frame parts = .ok rest) :
    evalParts true frame (.print (.name name) :: parts) = .ok (value.printEscaped ++ rest) := by
  refine evalParts_cons ?_ h
  rw [Part.eval, Expr.eval, resolve, hname]
  rfl

/-- A name that shows stands for what it shows. -/
theorem get?_of_shown {text? : Option String} {text : String}
    (hname : frame.get? name = text?.map .text) (h : shown text? = some text) :
    frame.get? name = some (.text text) := by
  rw [hname, (Option.filter_eq_some_iff.1 h).1]
  rfl

theorem eval_choose_of_shown {text? : Option String} {text : String}
    (hname : frame.get? name = text?.map .text) (h : shown text? = some text) :
    (Part.choose (.name name) yes no).eval escaping frame = evalParts escaping frame yes := by
  rw [Part.eval, Expr.eval, resolve, get?_of_shown hname h]
  exact if_pos (Option.filter_eq_some_iff.1 h).2

theorem eval_choose_of_not_shown {text? : Option String}
    (hname : frame.get? name = text?.map .text) (hfunction : Function.ofName? name = none)
    (h : shown text? = none) :
    (Part.choose (.name name) yes no).eval escaping frame = evalParts escaping frame no := by
  rw [Part.eval, Expr.eval, resolve, hname]
  cases text? with
  | none =>
    rw [Option.map_none, hfunction]
    rfl
  | some text =>
    have htext : ¬(text != "") = true := Option.filter_eq_none_iff.1 h text rfl
    exact if_neg htext

/-! ## Templates -/

theorem evalParts_wrapper (element : String)
    (hcontents : frame.get? "contents" = some (.safe ⟨inner⟩)) :
    evalParts true frame (wrapperParts element) = .ok (elementHtml element inner) := by
  rw [wrapperParts, evalParts_text (evalParts_print hcontents (evalParts_text evalParts_nil))]
  simp only [elementHtml, Value.printEscaped, String.append_assoc, String.append_empty]

theorem evalParts_contents (hcontents : frame.get? "contents" = some (.safe ⟨inner⟩)) :
    evalParts true frame [.print (.name "contents")] = .ok inner := by
  rw [evalParts_print hcontents evalParts_nil]
  simp [Value.printEscaped]

theorem evalParts_marked (start stop : String) {value? : Option String}
    (hcontents : frame.get? "contents" = some (.safe ⟨inner⟩))
    (hname : frame.get? name = value?.map .text) (hfunction : Function.ofName? name = none) :
    evalParts true frame (markedParts name start stop) =
      .ok (markedHtml start stop (shown value?) inner) := by
  rw [markedParts, evalParts_singleton]
  cases hshown : shown value? with
  | none =>
    rw [eval_choose_of_not_shown hname hfunction hshown]
    exact evalParts_contents hcontents
  | some value =>
    rw [eval_choose_of_shown hname hshown, evalParts_text (evalParts_print
      (get?_of_shown hname hshown) (evalParts_text (evalParts_print hcontents
        (evalParts_text evalParts_nil))))]
    simp only [markedHtml, Value.printEscaped, String.append_assoc, String.append_empty]

theorem eval_attribute {value? : Option String} (hname : frame.get? name = value?.map .text)
    (hfunction : Function.ofName? name = none) :
    (attributePart name).eval true frame = .ok (attributeHtml name (shown value?)) := by
  rw [attributePart]
  cases hshown : shown value? with
  | none =>
    rw [eval_choose_of_not_shown hname hfunction hshown]
    exact evalParts_nil
  | some value =>
    rw [eval_choose_of_shown hname hshown, evalParts_text (evalParts_print
      (get?_of_shown hname hshown) (evalParts_text evalParts_nil))]
    simp only [attributeHtml, Value.printEscaped, String.append_assoc, String.append_empty]

theorem evalParts_image {src? alt? width? height? : Option String}
    (hsrc : frame.get? "src" = src?.map .text) (halt : frame.get? "alt" = alt?.map .text)
    (hwidth : frame.get? "width" = width?.map .text)
    (hheight : frame.get? "height" = height?.map .text) :
    evalParts true frame imageParts =
      .ok (imageHtml (shown src?) (shown alt?) (shown width?) (shown height?)) := by
  rw [imageParts, evalParts_singleton]
  cases hshown : shown src? with
  | none =>
    rw [eval_choose_of_not_shown hsrc (by decide) hshown]
    exact evalParts_nil
  | some src =>
    rw [eval_choose_of_shown hsrc hshown, evalParts_text (evalParts_print
      (get?_of_shown hsrc hshown) (evalParts_text (evalParts_cons (eval_attribute halt (by decide))
        (evalParts_cons (eval_attribute hwidth (by decide))
          (evalParts_cons (eval_attribute hheight (by decide))
            (evalParts_text evalParts_nil))))))]
    simp only [imageHtml, Value.printEscaped, String.append_assoc, String.append_empty]

theorem evalParts_quotation {author? : Option String}
    (hcontents : frame.get? "contents" = some (.safe ⟨inner⟩))
    (hauthor : frame.get? "arg" = author?.map .text) :
    evalParts true frame quotationParts = .ok (quotationHtml (shown author?) inner) := by
  have hcite : (Part.choose (.name "arg")
      [.text "<cite>", .print (.name "arg"), .text "</cite>"] []).eval true frame =
        .ok (citeHtml (shown author?)) := by
    cases hshown : shown author? with
    | none =>
      rw [eval_choose_of_not_shown hauthor (by decide) hshown]
      exact evalParts_nil
    | some author =>
      rw [eval_choose_of_shown hauthor hshown, evalParts_text
        (evalParts_print (get?_of_shown hauthor hshown) (evalParts_text evalParts_nil))]
      simp only [citeHtml, Value.printEscaped, String.append_assoc, String.append_empty]
  rw [quotationParts, evalParts_text (evalParts_cons hcite
    (evalParts_print hcontents (evalParts_text evalParts_nil)))]
  simp only [quotationHtml, Value.printEscaped, String.append_assoc, String.append_empty]

end Template
end BracketMark
