import BracketMark.Json
import BracketMark.Markup.Node

/-!
# The JSON form of parse nodes

A literal is written as an object with the one member `literal`, a tagged node as one with
the one member `tagged`, whose own members are `name`, `arg`, `kwargs` and `children`.  An
absent argument and an empty set of keyword arguments are left out; the children are always
written.  Reading asks for a name only: a missing or null argument is none, missing keyword
arguments are empty, missing children are none, and members it does not know are passed
over; one that it knows may not be given twice.  The four members may also be given as an array
in their order.
-/

namespace BracketMark
namespace Markup

/-! ## Writing -/

def keywordsToJson (kwargs : Dict String) : Json :=
  .object (kwargs.toList.map fun p => (p.1, .string p.2))

def Opening.toMembers (opening : Opening) : List (String × Json) :=
  ("name", .string opening.name) ::
    ((opening.arg.map fun arg => ("arg", Json.string arg)).toList ++
      if opening.kwargs.isEmpty then [] else [("kwargs", keywordsToJson opening.kwargs)])

mutual

def Node.toJson : Node → Json
  | .literal text => .object [("literal", .string text)]
  | .tagged opening children =>
    .object [("tagged",
      .object (opening.toMembers ++ [("children", .array (nodesToJson children))]))]

def nodesToJson : List Node → List Json
  | [] => []
  | node :: nodes => node.toJson :: nodesToJson nodes

end

def Forest.toJson (forest : Forest) : Json :=
  .array (nodesToJson forest)

/-! ## Reading -/

def string? : Json → Option String
  | .string s => some s
  | _ => none

/-- A positional argument, or null for none. -/
def argument? : Json → Option (Option String)
  | .null => some none
  | .string s => some (some s)
  | _ => none

/-- The members of an object whose values are strings. -/
def keywordPairs? : List (String × Json) → Option (List (String × String))
  | [] => some []
  | (key, .string value) :: members => (keywordPairs? members).map ((key, value) :: ·)
  | _ :: _ => none

def keywords? : Json → Option (Dict String)
  | .object members => (keywordPairs? members).map Dict.ofList
  | _ => none

/-- The members of a tagged node, in order. -/
def memberNames : List String := ["name", "arg", "kwargs", "children"]

/-- Whether no member of a tagged node is given twice. -/
def givenOnce (members : List (String × Json)) : Bool :=
  memberNames.all fun name => (members.map (·.1)).count name ≤ 1

/-- An opening read from the members of an object. -/
def Opening.ofMembers? (members : List (String × Json)) : Option Opening := do
  guard (givenOnce members)
  let name ← (members.lookup "name").bind string?
  let arg ← (members.lookup "arg").elim (some none) argument?
  let kwargs ← (members.lookup "kwargs").elim (some .empty) keywords?
  pure ⟨name, arg, kwargs⟩

mutual

/-- The node a JSON value describes. -/
def Node.ofJson? : Json → Option Node
  | .object [("literal", .string text)] => some (.literal text)
  | .object [("tagged", .object members)] =>
    (Opening.ofMembers? members).bind fun opening =>
      (childrenMember? members).map (.tagged opening)
  | .object [("tagged", .array [.string name])] => some (.tagged ⟨name, none, .empty⟩ [])
  | .object [("tagged", .array [.string name, arg])] =>
    (argument? arg).map fun arg => .tagged ⟨name, arg, .empty⟩ []
  | .object [("tagged", .array [.string name, arg, kwargs])] =>
    (argument? arg).bind fun arg =>
      (keywords? kwargs).map fun kwargs => .tagged ⟨name, arg, kwargs⟩ []
  | .object [("tagged", .array [.string name, arg, kwargs, children])] =>
    (argument? arg).bind fun arg =>
      (keywords? kwargs).bind fun kwargs =>
        (forestOfJson? children).map (.tagged ⟨name, arg, kwargs⟩)
  | _ => none

/-- The forest under the first member `children`; none at all is an empty forest. -/
def childrenMember? : List (String × Json) → Option (List Node)
  | [] => some []
  | (key, value) :: members =>
    if key = "children" then forestOfJson? value else childrenMember? members

/-- The forest a JSON array describes. -/
def forestOfJson? : Json → Option (List Node)
  | .array items => nodesOfJson? items
  | _ => none

/-- The nodes that JSON values describe, in order. -/
def nodesOfJson? : List Json → Option (List Node)
  | [] => some []
  | item :: items =>
    (Node.ofJson? item).bind fun node => (nodesOfJson? items).map (node :: ·)

end

def Forest.ofJson? (json : Json) : Option Forest :=
  forestOfJson? json

end Markup
end BracketMark
