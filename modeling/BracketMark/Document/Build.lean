import BracketMark.Document.Tree
import BracketMark.Markup.Nest
import BracketMark.Tag.Registry

/-!
# Building documents

Building looks up the tags of a forest in the registry as it meets them, a tag before its
contents and siblings from left to right.  It is all or nothing: the first tag that is not
found ends it.  Text alone needs no tag, so building it loads nothing.
-/

namespace BracketMark
namespace Document

open Markup Tag

mutual

def buildNode : Node → RegistryM Tree
  | .literal text => pure (.literal text)
  | .tagged opening children => do
    -- a tag is looked up before its contents, which decides whose error is reported
    let definition ← Registry.lookup opening.name
    let contents ← buildNodes children
    return .tagWith definition (.ofSiblings contents) opening.arg opening.kwargs

def buildNodes : List Node → RegistryM (List Tree)
  | [] => pure []
  | node :: nodes => do
    let tree ← buildNode node
    let trees ← buildNodes nodes
    return tree :: trees

end

def build (forest : Forest) : RegistryM Tree := do
  return .ofSiblings (← buildNodes forest)

/-- What reads markup; it may find nothing at all. -/
abbrev Parser := String → Option Forest

/-- The parser of bracket markup with a nesting limit. -/
def bracketParser (limit : Nat) : Parser := fun markup => some (parse limit markup)

/-- The tree of markup.  No nodes at all are an empty document, which is an error. -/
def compile (parser : Parser) (markup : String) : RegistryM Tree :=
  match parser markup with
  | some (node :: nodes) => build (node :: nodes)
  | _ => throw .empty

end Document
end BracketMark
