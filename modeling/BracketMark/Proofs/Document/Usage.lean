import BracketMark.Proofs.Document.Indexed
import BracketMark.Proofs.Markup.NormalForm
import BracketMark.Proofs.Markup.RoundTrip

/-!
# Generated usage lines

A definition without usage lines of its own shows one that is generated from its name and its
contract.  That line is markup, and it means what it shows: it reads as one tag around a text
(`parse_element`), whose opening says what the contract asks for (`readOpening_written`), and so it
compiles to the definition that generated it, with that argument (`compile_usage`).

The opening writes its value without quotes, so this does not follow from how tags are printed.
-/

namespace BracketMark

open Document Markup Tag Text

/-! ## A tag around a text -/

namespace Markup

/-- A text between an opening tag of this content and the closing tag of the name. -/
def element (content text : List Char) (name : String) : List Char :=
  '[' :: (content ++ ']' :: (text ++ printClosing name))

section

variable {content text : List Char} {raw : String} {opening : Opening}

theorem scan_element (hspan : ∀ rest, spanEnd (content ++ ']' :: rest) = .closed content.length)
    (hread : readSpan content = .opening raw opening)
    (hname : isPlainName opening.name.toList = true) (hne : text ≠ []) (htext : '[' ∉ text) :
    scan (element content text opening.name) =
      [.opening raw opening, .text (String.ofList text),
        .closing (String.ofList (printClosing opening.name)) opening.name] := by
  have hclosing := scan_printClosing hname []
  rw [List.append_nil, scan] at hclosing
  have hbracket : AtBracket (printClosing opening.name) := Or.inr ⟨_, rfl⟩
  rw [element, scan_span (hspan _), hread, scan_text hne htext hbracket, hclosing]

/-- An opening, a text and the closing of that opening nest into one node. -/
theorem nestTokens_element {limit : Nat} (hlimit : 0 < limit) {text closing : String}
    (hne : text ≠ "") :
    nestTokens limit [.opening raw opening, .text text, .closing closing opening.name] =
      [.tagged opening [.literal text]] := by
  have hfree : surplus [.text text, .closing closing opening.name] opening.name = 1 := by
    show surplus [.closing closing opening.name] opening.name = 1
    rw [surplus_cons_closing, if_pos rfl]
    rfl
  have hmarks : withMarks [.opening raw opening, .text text, .closing closing opening.name] =
      [(.opening raw opening, true), (.text text, false),
        (.closing closing opening.name, false)] := by
    simp [withMarks, Token.closableBefore, hfree]
  have hopen : Nest.empty.step limit (.opening raw opening) true = ⟨[], [⟨opening, []⟩]⟩ := by
    simp [Nest.step, Nest.push, Nest.empty, hlimit]
  have htext : (⟨[], [⟨opening, []⟩]⟩ : Nest).step limit (.text text) false =
      ⟨[.literal text], [⟨opening, []⟩]⟩ := by
    show (⟨Nest.appendText text [], _⟩ : Nest) = _
    rw [Nest.appendText_of_not_literal hne fun _ _ => (List.cons_ne_nil _ _).symm]
  rw [nestTokens, zip_closable, hmarks, Nest.run_cons, hopen, Nest.run_cons, htext, Nest.run_cons,
    Nest.step_closing]
  rfl

/-- **A tag around a text is one node**, under any limit that leaves room for it. -/
theorem parse_element {limit : Nat} (hlimit : 0 < limit)
    (hspan : ∀ rest, spanEnd (content ++ ']' :: rest) = .closed content.length)
    (hread : readSpan content = .opening raw opening)
    (hname : isPlainName opening.name.toList = true) (hne : text ≠ []) (htext : '[' ∉ text) :
    parse limit (String.ofList (element content text opening.name)) =
      [.tagged opening [.literal (String.ofList text)]] := by
  have hstring : String.ofList text ≠ "" := by
    rw [Ne, String.ofList_eq_empty_iff]
    exact hne
  rw [parse, tokens, String.toList_ofList, scan_element hspan hread hname hne htext,
    nestTokens_element hlimit hstring]

end

/-! ## Values without quotes -/

section

variable {name value : List Char}

/-- An equals sign and a value without quotes are passed over. -/
theorem spanEndFrom_bare (h : ∀ c ∈ value, isNameChar c = true) (size : Nat) (rest : List Char) :
    spanEndFrom (.plain false) size ('=' :: value ++ ']' :: rest) =
      .closed (size + ('=' :: value).length) := by
  cases value with
  | nil => rfl
  | cons c value =>
    -- a quote right behind the equals sign would open a value, but no name begins with one
    have hc := h c List.mem_cons_self
    have hequals : (c == '=') = false := beq_eq_false_iff_ne.2 (ne_of_isNameChar hc (by decide))
    show spanEndFrom (.plain true) (size + 1) (c :: (value ++ ']' :: rest)) = _
    rw [spanEndFrom_char (ne_of_isNameChar hc (by decide)) (ne_of_isNameChar hc (by decide))
        (by rw [isQuote_of_isNameChar hc, Bool.and_false]), isBlank_of_isNameChar hc, hequals,
      if_neg Bool.false_ne_true, spanEndFrom_name fun d hd => h d (List.mem_cons_of_mem c hd)]
    show SpanEnd.closed _ = _
    congr 1
    simp only [List.length_cons]
    omega

theorem readValue_name (h : ∀ c ∈ value, isNameChar c = true) :
    readValue value = some (value, []) := by
  refine readValue_eq_some_iff.2 ⟨value, (List.append_nil value).symm, .bare ?_ ?_, rfl⟩
  · exact fun c hc => isBlank_of_isNameChar (h c hc)
  · rintro c more rfl
    exact isQuote_of_isNameChar (h c List.mem_cons_self)

end

end Markup

/-! ## The generated line -/

namespace Tag
namespace Definition

/-- What the generated line writes behind the name of its opening tag. -/
def written : Contract → List Char
  | .none => []
  | .positional => '=' :: "value".toList
  | .keywords => ' ' :: ("key".toList ++ '=' :: "value".toList)

/-- What the opening tag of the generated line says. -/
def exampleOpening (name : String) : Contract → Opening
  | .none => ⟨name, none, .empty⟩
  | .positional => ⟨name, some "value", .empty⟩
  | .keywords => ⟨name, none, Dict.empty.insert "key" "value"⟩

/-- The arguments that the generated line gives to a tag of the contract. -/
def exampleArguments : Contract → Arguments
  | .none => .none
  | .positional => .positional "value"
  | .keywords => .keywords (Dict.empty.insert "key" "value")

theorem isNameChar_key : ∀ c ∈ "key".toList, isNameChar c = true :=
  List.all_eq_true.1 rfl

theorem isNameChar_value : ∀ c ∈ "value".toList, isNameChar c = true :=
  List.all_eq_true.1 rfl

theorem name_exampleOpening (name : String) (contract : Contract) :
    (exampleOpening name contract).name = name := by
  cases contract <;> rfl

/-- A contract keeps what its generated line gives. -/
theorem select_exampleOpening (name : String) (contract : Contract) :
    Arguments.select contract (exampleOpening name contract).arg
      (exampleOpening name contract).kwargs = exampleArguments contract := by
  cases contract <;> rfl

theorem exampleLine_eq (name : String) (contract : Contract) :
    exampleLine name contract =
      String.ofList (element (name.toList ++ written contract) "Example Text".toList name) := by
  rw [← String.toList_inj, String.toList_ofList]
  cases contract <;> simp [exampleLine, element, written, printClosing]

section

variable {name : String} (hname : isPlainName name.toList = true)

include hname

theorem spanEnd_written (contract : Contract) (rest : List Char) :
    spanEnd (name.toList ++ written contract ++ ']' :: rest) =
      .closed (name.toList ++ written contract).length := by
  rw [spanEnd, List.append_assoc, spanEndFrom_name (isNameChar_of_isPlainName hname),
    List.length_append, Nat.zero_add]
  cases contract with
  | none => rfl
  | positional => exact spanEndFrom_bare isNameChar_value _ rest
  | keywords =>
    have hblank (size : Nat) (rest : List Char) : spanEndFrom (.plain false) size (' ' :: rest) =
        spanEndFrom (.plain false) (size + 1) rest := rfl
    rw [written, List.cons_append, hblank, List.append_assoc, spanEndFrom_name isNameChar_key,
      spanEndFrom_bare isNameChar_value]
    rfl

theorem readOpening_written (contract : Contract) :
    readOpening (name.toList ++ written contract) = some (exampleOpening name contract) := by
  have hname' := isName_of_isPlainName hname
  have hfold := ofList_fold_of_isPlainName hname
  cases contract with
  | none =>
    rw [written, List.append_nil, readOpening_name hname', hfold]
    rfl
  | positional =>
    rw [written, readOpening_argument hname', hfold]
    rfl
  | keywords =>
    rw [written, readOpening_keywords hname',
      readKeywords_pair (by decide) isNameChar_key (readValue_name isNameChar_value),
      Option.map_some, hfold]
    rfl

/-- **The generated line reads as one tag** around its text. -/
theorem parse_exampleLine (contract : Contract) {limit : Nat} (hlimit : 0 < limit) :
    parse limit (exampleLine name contract) =
      [.tagged (exampleOpening name contract) [.literal "Example Text"]] := by
  have hread := readSpan_name (isName_of_isPlainName hname) (written contract)
  rw [readOpening_written hname] at hread
  have hname' : isPlainName (exampleOpening name contract).name.toList = true := by
    rw [name_exampleOpening]
    exact hname
  have hparse := parse_element hlimit (spanEnd_written hname contract) hread hname'
    (show "Example Text".toList ≠ [] by decide) (by decide)
  rw [exampleLine_eq]
  rwa [name_exampleOpening, String.ofList_toList] at hparse

end

/-! ## Definitions that generate it -/

/-- The definitions made of a name and a contract, with a template of their own or a hook or
    neither, but with no usage lines. -/
inductive BuiltFrom (name : String) (contract : Contract) : Definition → Prop
  | new {d : Definition} (hnew : Definition.new name contract = .ok d) :
      BuiltFrom name contract d
  | withTemplate {d : Definition} (hd : BuiltFrom name contract d) (template : String) :
      BuiltFrom name contract (d.withTemplate template)
  | withHook {d : Definition} (hd : BuiltFrom name contract d) (hook : Hook) :
      BuiltFrom name contract (d.withHook hook)

theorem BuiltFrom.fields {name : String} {contract : Contract} {d : Definition}
    (h : d.BuiltFrom name contract) :
    d.name = foldCase name ∧ d.contract = contract ∧ d.usage? = none := by
  induction h with
  | new hnew =>
    rw [Definition.new] at hnew
    split at hnew
    case isTrue =>
      cases hnew
      exact ⟨rfl, rfl, rfl⟩
    case isFalse => cases hnew
  | withTemplate _ _ ih => exact ih
  | withHook _ _ ih => exact ih

/-- A name of the grammar names a tag. -/
theorem exists_new_eq_ok {name : String} (hname : isName name.toList = true)
    (contract : Contract) : ∃ d, Definition.new name contract = .ok d := by
  obtain ⟨c, cs, hcons⟩ := List.exists_cons_of_ne_nil (ne_nil_of_isName hname)
  have hc : c ∈ name.toList := hcons ▸ List.mem_cons_self
  have hblank : blank name = false := by
    rw [blank, List.all_eq_false]
    exact ⟨c, hc, by simp [isBlank_of_isNameChar (isNameChar_of_isName hname c hc)]⟩
  exact ⟨_, dif_pos hblank⟩

end Definition
end Tag

/-! ## Compiling it -/

namespace Document

open Definition Registry

variable {name : String}

/-- **A generated usage line is markup of its own tag.**  A name of the grammar, in any case of
    letters, makes a definition.  If a registry, loaded or not, answers the name in lower case
    with a definition made of it, then the one line that this definition generates compiles, unless
    the limit leaves no room for any tag, to a tag with that definition, around the text of the
    example, and with what the contract asks for: nothing, the value, or the value under its key. -/
theorem compile_usage (hname : isName name.toList = true) (contract : Contract) :
    (∃ d, Definition.new name contract = .ok d) ∧
      ∀ d : Definition, d.BuiltFrom name contract → ∃ line, d.usage = [line] ∧
        ∀ limit registry index loaded, 0 < limit →
          ensureLoaded.run registry = (.ok index, loaded) →
          index.get? (foldCase name) = some d →
          (compile (bracketParser limit) line).run registry =
            (.ok (.tag d (exampleArguments contract) (.literal "Example Text")), loaded) := by
  refine ⟨exists_new_eq_ok hname contract, fun d hd => ?_⟩
  obtain ⟨hdname, rfl, husage⟩ := hd.fields
  refine ⟨exampleLine d.name d.contract, by rw [Definition.usage, husage]; rfl, ?_⟩
  intro limit registry index loaded hlimit hload hindex
  have hplain : isPlainName d.name.toList = true := by
    rw [hdname, toList_foldCase]
    exact isPlainName_fold hname
  have hparse := parse_exampleLine hplain d.contract hlimit
  have htag : ((bracketParser limit) (exampleLine d.name d.contract)).any hasTag = true := by
    rw [bracketParser, hparse]
    rfl
  have hlookup : index.lookup (exampleOpening d.name d.contract).name = .ok d := by
    rw [name_exampleOpening, Index.lookup_eq_ok_iff, d.folded, hdname]
    exact hindex
  have hcompile : index.compile (bracketParser limit) (exampleLine d.name d.contract) =
      .ok (.tag d (exampleArguments d.contract) (.literal "Example Text")) := by
    simp only [Index.compile, bracketParser, hparse, Index.build, Index.buildNodes,
      Index.buildNode, hlookup]
    rw [← select_exampleOpening d.name]
    rfl
  rw [consults_compile htag registry, hload]
  exact Prod.ext hcompile rfl

/-- A tag with keyword arguments and a template of its own. -/
def rowTag : Definition :=
  Definition.withTemplate ⟨"data-row", .keywords, none, none, none, by decide, by decide⟩ "row.html"

theorem builtFrom_rowTag : rowTag.BuiltFrom "Data-Row" .keywords :=
  .withTemplate (.new rfl) "row.html"

/-- A registry with that tag, which is not loaded yet. -/
def rowRegistry : Registry :=
  .new (Dict.ofList [("rows", fun _ => .ok ⟨"rows", [rowTag]⟩)]) ["rows"]

def rowIndex : Index :=
  Dict.empty.insert "data-row" rowTag

theorem compile_usage_rowTag :
    rowTag.BuiltFrom "Data-Row" .keywords ∧ ∃ line, rowTag.usage = [line] ∧
      (compile (bracketParser 1) line).run rowRegistry =
        (.ok (.tag rowTag (.keywords (Dict.empty.insert "key" "value")) (.literal "Example Text")),
          { rowRegistry with index := some rowIndex, calls := ["rows"] }) := by
  have hname : isName "Data-Row".toList = true := by decide
  obtain ⟨line, husage, hcompile⟩ := (compile_usage hname .keywords).2 rowTag builtFrom_rowTag
  exact ⟨builtFrom_rowTag, line, husage, hcompile 1 rowRegistry rowIndex _ Nat.one_pos rfl rfl⟩

end Document
end BracketMark
