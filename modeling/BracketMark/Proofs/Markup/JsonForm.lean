import Mathlib
import BracketMark.Markup.NodeJson

/-!
# Forests in JSON

Reading is more lenient than writing.  An argument may be missing or null, keyword arguments and
children may be missing, members may come in any order and among others, and the known ones may be
given without their names.  What is written has one form for each forest, the canonical one.
`NodeForm json canonical` says of JSON values alone, without nodes, which is the canonical form of
which.

Reading undoes writing (`Forest.ofJson?_toJson`).  And a value is read as a forest exactly if it
has a canonical form, which is then what is written for the forest (`forestForm_iff`).
-/

namespace BracketMark
namespace Markup

/-! ## Canonical forms -/

def textMembers (pairs : List (String × String)) : List (String × Json) :=
  pairs.map fun p => (p.1, .string p.2)

/-- What a member `arg`, if there is one, leaves in the canonical form. -/
inductive ArgumentForm : Option Json → List (String × Json) → Prop
  | missing : ArgumentForm none []
  | null : ArgumentForm (some .null) []
  | given (arg : String) : ArgumentForm (some (.string arg)) [("arg", .string arg)]

/-- What a member `kwargs`, if there is one, leaves in the canonical form: each key once, with the
    last value that it is given, and in order. -/
inductive KeywordsForm : Option Json → List (String × Json) → Prop
  | missing : KeywordsForm none []
  | empty : KeywordsForm (some (.object [])) []
  | given {pairs : List (String × String)} (hne : pairs ≠ []) :
      KeywordsForm (some (.object (textMembers pairs)))
        [("kwargs", .object (textMembers (Dict.ofList pairs).toList))]

/-- A tagged node with these members: they are named, or in their order without their names. -/
inductive TaggedWith : Json → List (String × Json) → Prop
  | named (members : List (String × Json)) :
      TaggedWith (.object [("tagged", .object members)]) members
  | listed {values : List Json} (hlength : values.length ≤ memberNames.length) :
      TaggedWith (.object [("tagged", .array values)]) (memberNames.zip values)

mutual

/-- `NodeForm json canonical`: the value has this canonical form. -/
inductive NodeForm : Json → Json → Prop
  | literal (text : String) :
      NodeForm (.object [("literal", .string text)]) (.object [("literal", .string text)])
  | tagged {json : Json} {members argument keywords : List (String × Json)} {name : String}
      {children : List Json} (htagged : TaggedWith json members)
      (honce : ∀ known ∈ memberNames, (members.map (·.1)).count known ≤ 1)
      (hname : members.lookup "name" = some (.string name))
      (hargument : ArgumentForm (members.lookup "arg") argument)
      (hkeywords : KeywordsForm (members.lookup "kwargs") keywords)
      (hchildren : ChildrenForm (members.lookup "children") children) :
      NodeForm json (.object [("tagged", .object
        (("name", .string name) :: (argument ++ keywords) ++ [("children", .array children)]))])

inductive ChildrenForm : Option Json → List Json → Prop
  | missing : ChildrenForm none []
  | given {items children : List Json} (hitems : ItemsForm items children) :
      ChildrenForm (some (.array items)) children

inductive ItemsForm : List Json → List Json → Prop
  | nil : ItemsForm [] []
  | cons {json canonical : Json} {items children : List Json} (hnode : NodeForm json canonical)
      (hitems : ItemsForm items children) : ItemsForm (json :: items) (canonical :: children)

end

inductive ForestForm : Json → Json → Prop
  | array {items children : List Json} (hitems : ItemsForm items children) :
      ForestForm (.array items) (.array children)

/-! ## Arguments -/

theorem argumentForm_iff {member? : Option Json} {members : List (String × Json)} :
    ArgumentForm member? members ↔ ∃ arg : Option String,
      member?.elim (some none) argument? = some arg ∧
        members = (arg.map fun arg => ("arg", Json.string arg)).toList := by
  constructor
  · intro h
    cases h with
    | missing => exact ⟨none, rfl, rfl⟩
    | null => exact ⟨none, rfl, rfl⟩
    | given arg => exact ⟨some arg, rfl, rfl⟩
  · rintro ⟨arg, hread, rfl⟩
    cases member? with
    | none =>
      cases hread
      exact .missing
    | some json =>
      cases json with
      | null =>
        cases hread
        exact .null
      | string arg =>
        cases hread
        exact .given arg
      | bool => cases hread
      | number => cases hread
      | array => cases hread
      | object => cases hread

theorem keywordPairs?_eq_some_iff {members : List (String × Json)}
    {pairs : List (String × String)} :
    keywordPairs? members = some pairs ↔ members = textMembers pairs := by
  induction members generalizing pairs with
  | nil =>
    cases pairs with
    | nil => exact iff_of_true rfl rfl
    | cons p pairs => exact iff_of_false nofun nofun
  | cons member members ih =>
    obtain ⟨key, value⟩ := member
    cases value with
    | string text =>
      rw [keywordPairs?, Option.map_eq_some_iff]
      constructor
      · rintro ⟨rest, hrest, rfl⟩
        rw [ih.1 hrest]
        rfl
      · intro h
        cases pairs with
        | nil => cases h
        | cons p pairs =>
          obtain ⟨hpair, hrest⟩ := List.cons.inj h
          cases hpair
          exact ⟨pairs, ih.2 hrest, rfl⟩
    | null | bool | number | array | object =>
      refine iff_of_false (by simp [keywordPairs?]) ?_
      intro h
      cases pairs with
      | nil => cases h
      | cons p pairs => cases (List.cons.inj h).1

theorem isEmpty_ofList_iff {pairs : List (String × String)} :
    (Dict.ofList pairs).isEmpty = true ↔ pairs = [] := by
  constructor
  · intro h
    cases pairs with
    | nil => rfl
    | cons p pairs =>
      have hget := Dict.get?_ofList (p :: pairs) p.1
      have hsome : ((p :: pairs).reverse.lookup p.1).isSome = true := by
        rw [List.lookup_isSome_iff]
        exact ⟨p, by simp, by simp⟩
      rw [← hget, Dict.isEmpty_iff.1 h] at hsome
      cases hsome
  · rintro rfl
    rfl

theorem keywordsForm_iff {member? : Option Json} {members : List (String × Json)} :
    KeywordsForm member? members ↔ ∃ kwargs : Dict String,
      member?.elim (some .empty) keywords? = some kwargs ∧
        members = if kwargs.isEmpty then [] else [("kwargs", keywordsToJson kwargs)] := by
  constructor
  · intro h
    cases h with
    | missing => exact ⟨.empty, rfl, rfl⟩
    | empty => exact ⟨.empty, rfl, rfl⟩
    | @given pairs hne =>
      refine ⟨.ofList pairs, ?_, ?_⟩
      · show (keywordPairs? (textMembers pairs)).map Dict.ofList = _
        rw [keywordPairs?_eq_some_iff.2 rfl, Option.map_some]
      · rw [if_neg fun hempty => hne (isEmpty_ofList_iff.1 hempty)]
        rfl
  · rintro ⟨kwargs, hread, rfl⟩
    cases member? with
    | none =>
      cases hread
      exact .missing
    | some json =>
      cases json with
      | object members =>
        obtain ⟨pairs, hpairs, rfl⟩ := Option.map_eq_some_iff.1 hread
        rw [keywordPairs?_eq_some_iff.1 hpairs]
        by_cases hempty : pairs = []
        · subst hempty
          exact .empty
        · rw [if_neg fun h => hempty (isEmpty_ofList_iff.1 h)]
          exact .given hempty
      | null => cases hread
      | string => cases hread
      | bool => cases hread
      | number => cases hread
      | array => cases hread

/-! ## Tagged nodes -/

theorem string?_eq_some_iff {json : Json} {text : String} :
    string? json = some text ↔ json = .string text := by
  cases json with
  | string text' => simp [string?]
  | null | bool | number | array | object => simp [string?]

theorem givenOnce_iff {members : List (String × Json)} : givenOnce members = true ↔
    ∀ known ∈ memberNames, (members.map (·.1)).count known ≤ 1 := by
  simp [givenOnce]

theorem ofMembers?_eq_some_iff {members : List (String × Json)} {opening : Opening} :
    Opening.ofMembers? members = some opening ↔
      (∀ known ∈ memberNames, (members.map (·.1)).count known ≤ 1) ∧
      members.lookup "name" = some (.string opening.name) ∧
      (members.lookup "arg").elim (some none) argument? = some opening.arg ∧
      (members.lookup "kwargs").elim (some .empty) keywords? = some opening.kwargs := by
  obtain ⟨name, arg, kwargs⟩ := opening
  rw [← givenOnce_iff, Opening.ofMembers?]
  by_cases honce : givenOnce members = true
  · simp only [guard, honce, if_true, Option.pure_def, Option.bind_eq_bind, Option.bind_some,
      Option.bind_eq_some_iff, Option.some.injEq, Opening.mk.injEq, string?_eq_some_iff]
    constructor
    · rintro ⟨_, ⟨json, hname, rfl⟩, _, harg, _, hkwargs, rfl, rfl, rfl⟩
      exact ⟨trivial, hname, harg, hkwargs⟩
    · rintro ⟨-, hname, harg, hkwargs⟩
      exact ⟨name, ⟨_, hname, rfl⟩, arg, harg, kwargs, hkwargs, rfl, rfl, rfl⟩
  · refine iff_of_false ?_ fun h => honce h.1
    rw [guard, if_neg honce]
    exact nofun

theorem childrenMember?_eq (members : List (String × Json)) :
    childrenMember? members = (members.lookup "children").elim (some []) forestOfJson? := by
  induction members with
  | nil => rw [childrenMember?]; rfl
  | cons member members ih =>
    obtain ⟨key, value⟩ := member
    rw [childrenMember?, List.lookup_cons]
    by_cases hkey : key = "children"
    · subst hkey
      simp
    · have hne : ("children" == key) = false := beq_eq_false_iff_ne.2 (Ne.symm hkey)
      rw [if_neg hkey, hne, ih]

theorem ofJson?_named (members : List (String × Json)) :
    Node.ofJson? (.object [("tagged", .object members)]) =
      (Opening.ofMembers? members).bind fun opening =>
        (childrenMember? members).map (.tagged opening) := by
  rw [Node.ofJson?]

/-- Without their names the members are read as with them. -/
theorem ofJson?_listed (values : List Json) : Node.ofJson? (.object [("tagged", .array values)]) =
    if values.length ≤ memberNames.length then
      Node.ofJson? (.object [("tagged", .object (memberNames.zip values))])
    else none := by
  rcases values with _ | ⟨name, _ | ⟨arg, _ | ⟨kwargs, _ | ⟨children, _ | ⟨extra, values⟩⟩⟩⟩⟩
  case nil =>
    simp [Node.ofJson?, memberNames, Opening.ofMembers?, givenOnce]
  case cons.cons.cons.cons.cons =>
    rw [if_neg (by simp [memberNames]), Node.ofJson?]
    all_goals simp
  all_goals
    rw [if_pos (by simp [memberNames])]
    simp only [memberNames, List.zip_cons_cons, List.zip_nil_right]
    cases name
    all_goals
      simp [Node.ofJson?, Opening.ofMembers?, givenOnce, memberNames, guard, string?, List.lookup,
        childrenMember?_eq, Option.map_eq_bind, Option.bind_assoc]

theorem ofJson?_eq_some_iff {json : Json} {node : Node} : Node.ofJson? json = some node ↔
    (∃ text, json = .object [("literal", .string text)] ∧ node = .literal text) ∨
      ∃ members opening children, TaggedWith json members ∧
        Opening.ofMembers? members = some opening ∧ childrenMember? members = some children ∧
          node = .tagged opening children := by
  constructor
  · intro h
    by_cases hlisted : ∃ values, json = .object [("tagged", .array values)]
    · obtain ⟨values, rfl⟩ := hlisted
      rw [ofJson?_listed] at h
      split at h
      case isTrue hlength =>
        rw [ofJson?_named] at h
        obtain ⟨opening, hopening, h⟩ := Option.bind_eq_some_iff.1 h
        obtain ⟨children, hchildren, rfl⟩ := Option.map_eq_some_iff.1 h
        exact .inr ⟨_, opening, children, .listed hlength, hopening, hchildren, rfl⟩
      case isFalse => cases h
    · unfold Node.ofJson? at h
      split at h
      case h_1 text =>
        cases h
        exact .inl ⟨text, rfl, rfl⟩
      case h_2 members =>
        obtain ⟨opening, hopening, h⟩ := Option.bind_eq_some_iff.1 h
        obtain ⟨children, hchildren, rfl⟩ := Option.map_eq_some_iff.1 h
        exact .inr ⟨_, opening, children, .named members, hopening, hchildren, rfl⟩
      case h_7 => cases h
      all_goals exact absurd ⟨_, rfl⟩ hlisted
  · rintro (⟨text, rfl, rfl⟩ | ⟨members, opening, children, htagged, hopening, hchildren, rfl⟩)
    · rw [Node.ofJson?]
    · have hnamed : Node.ofJson? (.object [("tagged", .object members)]) =
          some (.tagged opening children) := by
        rw [ofJson?_named, hopening, Option.bind_some, hchildren, Option.map_some]
      cases htagged with
      | named => exact hnamed
      | listed hlength => rw [ofJson?_listed, if_pos hlength, hnamed]

/-! ## Reading what was written -/

theorem keywords?_toJson (kwargs : Dict String) :
    keywords? (keywordsToJson kwargs) = some kwargs := by
  have hpairs : keywordPairs? (textMembers kwargs.toList) = some kwargs.toList :=
    keywordPairs?_eq_some_iff.2 rfl
  rw [keywordsToJson, keywords?, ← textMembers, hpairs, Option.map_some, Dict.ofList_toList]

theorem ofMembers?_toMembers (opening : Opening) (children : Json) :
    Opening.ofMembers? (opening.toMembers ++ [("children", children)]) = some opening := by
  obtain ⟨name, arg, kwargs⟩ := opening
  rw [ofMembers?_eq_some_iff]
  cases arg
  all_goals
    by_cases hempty : kwargs.isEmpty = true
    · have hkwargs : .empty = kwargs := (Dict.isEmpty_iff.1 hempty).symm
      simpa [Opening.toMembers, hempty, memberNames, argument?, List.lookup] using hkwargs
    · simp [Opening.toMembers, hempty, memberNames, argument?, List.lookup, keywords?_toJson]

theorem childrenMember?_toMembers (opening : Opening) (children : Json) :
    childrenMember? (opening.toMembers ++ [("children", children)]) = forestOfJson? children := by
  obtain ⟨name, arg, kwargs⟩ := opening
  rw [childrenMember?_eq]
  cases arg
  all_goals
    by_cases hempty : kwargs.isEmpty = true
    · simp [Opening.toMembers, hempty, List.lookup]
    · simp [Opening.toMembers, hempty, List.lookup]

mutual

theorem Node.ofJson?_toJson : ∀ node : Node, Node.ofJson? node.toJson = some node
  | .literal text => by rw [Node.toJson, Node.ofJson?]
  | .tagged opening children => by
    rw [Node.toJson, ofJson?_named, ofMembers?_toMembers, childrenMember?_toMembers, forestOfJson?,
      nodesOfJson?_toJson children]
    rfl

theorem nodesOfJson?_toJson : ∀ nodes : List Node, nodesOfJson? (nodesToJson nodes) = some nodes
  | [] => by rw [nodesToJson, nodesOfJson?]
  | node :: nodes => by
    rw [nodesToJson, nodesOfJson?, Node.ofJson?_toJson node, nodesOfJson?_toJson nodes]
    rfl

end

/-! ## The canonical form is what is written -/

mutual

theorem NodeForm.read {json canonical : Json} :
    NodeForm json canonical → ∃ node, Node.ofJson? json = some node ∧ node.toJson = canonical
  | .literal text => ⟨.literal text, by rw [Node.ofJson?], by rw [Node.toJson]⟩
  | @NodeForm.tagged _ _ _ _ name _ htagged honce hname hargument hkeywords hchildren => by
    obtain ⟨arg, harg, rfl⟩ := argumentForm_iff.1 hargument
    obtain ⟨kwargs, hkwargs, rfl⟩ := keywordsForm_iff.1 hkeywords
    obtain ⟨children, hread, rfl⟩ := hchildren.read
    refine ⟨.tagged ⟨name, arg, kwargs⟩ children, ?_, ?_⟩
    · refine ofJson?_eq_some_iff.2 (.inr ⟨_, _, _, htagged, ?_, ?_, rfl⟩)
      · exact ofMembers?_eq_some_iff.2 ⟨honce, hname, harg, hkwargs⟩
      · rw [childrenMember?_eq, hread]
    · rw [Node.toJson, Opening.toMembers]

theorem ChildrenForm.read {member? : Option Json} {children : List Json} :
    ChildrenForm member? children →
      ∃ nodes, member?.elim (some []) forestOfJson? = some nodes ∧ nodesToJson nodes = children
  | .missing => ⟨[], rfl, by rw [nodesToJson]⟩
  | .given hitems => by
    obtain ⟨nodes, hread, hwrite⟩ := hitems.read
    exact ⟨nodes, by rw [Option.elim_some, forestOfJson?, hread], hwrite⟩

theorem ItemsForm.read {items children : List Json} : ItemsForm items children →
    ∃ nodes, nodesOfJson? items = some nodes ∧ nodesToJson nodes = children
  | .nil => ⟨[], by rw [nodesOfJson?], by rw [nodesToJson]⟩
  | .cons hnode hitems => by
    obtain ⟨node, hread, rfl⟩ := hnode.read
    obtain ⟨nodes, hreads, rfl⟩ := hitems.read
    refine ⟨node :: nodes, ?_, by rw [nodesToJson]⟩
    rw [nodesOfJson?, hread, hreads]
    rfl

end

theorem forestOfJson?_eq_some_iff {json : Json} {nodes : List Node} :
    forestOfJson? json = some nodes ↔
      ∃ items, json = .array items ∧ nodesOfJson? items = some nodes := by
  cases json with
  | array items => simp [forestOfJson?]
  | null | bool | number | string | object => simp [forestOfJson?]

mutual

/-- What is read has a canonical form: by recursion on the node, not on the value, whose members
    hold the children at no fixed place. -/
theorem nodeForm_of_ofJson? : ∀ (node : Node) {json : Json}, Node.ofJson? json = some node →
    NodeForm json node.toJson
  | .literal text, json, h => by
    obtain ⟨text', rfl, heq⟩ | ⟨_, _, _, _, _, _, heq⟩ := ofJson?_eq_some_iff.1 h
    · cases heq
      rw [Node.toJson]
      exact .literal text
    · cases heq
  | .tagged opening children, json, h => by
    obtain ⟨_, _, heq⟩ | ⟨members, _, _, htagged, hopening, hchildren, heq⟩ :=
      ofJson?_eq_some_iff.1 h
    · cases heq
    · cases heq
      obtain ⟨honce, hname, harg, hkwargs⟩ := ofMembers?_eq_some_iff.1 hopening
      rw [Node.toJson, Opening.toMembers]
      refine .tagged htagged honce hname (argumentForm_iff.2 ⟨_, harg, rfl⟩)
        (keywordsForm_iff.2 ⟨_, hkwargs, rfl⟩) ?_
      rw [childrenMember?_eq] at hchildren
      cases hmember : members.lookup "children" with
      | none =>
        rw [hmember] at hchildren
        cases hchildren
        rw [nodesToJson]
        exact .missing
      | some value =>
        rw [hmember] at hchildren
        obtain ⟨items, rfl, hitems⟩ := forestOfJson?_eq_some_iff.1 hchildren
        exact .given (itemsForm_of_nodesOfJson? children hitems)

theorem itemsForm_of_nodesOfJson? : ∀ (nodes : List Node) {items : List Json},
    nodesOfJson? items = some nodes → ItemsForm items (nodesToJson nodes)
  | nodes, [], h => by
    rw [nodesOfJson?] at h
    cases h
    rw [nodesToJson]
    exact .nil
  | nodes, item :: items, h => by
    rw [nodesOfJson?] at h
    obtain ⟨node, hnode, h⟩ := Option.bind_eq_some_iff.1 h
    obtain ⟨rest, hrest, rfl⟩ := Option.map_eq_some_iff.1 h
    rw [nodesToJson]
    exact .cons (nodeForm_of_ofJson? node hnode) (itemsForm_of_nodesOfJson? rest hrest)

end


theorem forestForm_iff {json canonical : Json} : ForestForm json canonical ↔
    ∃ forest : Forest, Forest.ofJson? json = some forest ∧ forest.toJson = canonical := by
  constructor
  · rintro ⟨hitems⟩
    obtain ⟨nodes, hread, rfl⟩ := hitems.read
    exact ⟨nodes, forestOfJson?_eq_some_iff.2 ⟨_, rfl, hread⟩, rfl⟩
  · rintro ⟨forest, hread, rfl⟩
    obtain ⟨items, rfl, hitems⟩ := forestOfJson?_eq_some_iff.1 hread
    exact .array (itemsForm_of_nodesOfJson? forest hitems)

theorem Forest.ofJson?_toJson (forest : Forest) : Forest.ofJson? forest.toJson = some forest := by
  rw [Forest.ofJson?, Forest.toJson, forestOfJson?, nodesOfJson?_toJson]

/-- Writing a forest and reading it again gives back the forest.  A JSON value has a canonical form
    exactly if it is read as a forest, and then this form is what is written for the forest. -/
theorem faithful_json :
    (∀ forest : Forest, Forest.ofJson? forest.toJson = some forest) ∧
      ∀ json canonical : Json, ForestForm json canonical ↔
        ∃ forest : Forest, Forest.ofJson? json = some forest ∧ forest.toJson = canonical :=
  ⟨Forest.ofJson?_toJson, fun _ _ => forestForm_iff⟩

example : (Forest.ofJson? (.array [.object [("tagged", .object
      [("line", .number 3 0), ("arg", .null), ("name", .string "b")])]])).map Forest.toJson =
    some (.array [.object [("tagged", .object
      [("name", .string "b"), ("children", .array [])])]]) := by
  rfl

end Markup
end BracketMark
