import BracketMark.Markup.Token

/-!
# Parse nodes

Markup reads as a forest: literal texts and tagged nodes.  A tagged node records what its
opening tag said and holds the forest between its tags.  Names are not resolved here: a
node carries its name whether or not any tag is defined for it.
-/

namespace BracketMark
namespace Markup

inductive Node where
  /-- Text, exactly as written. -/
  | literal (text : String)
  /-- A tag with what stands between its opening and its closing. -/
  | tagged (opening : Opening) (children : List Node)

/-- Nodes side by side. -/
abbrev Forest := List Node

namespace Node

instance : Inhabited Node := ⟨.literal ""⟩

def literal? : Node → Option String
  | .literal text => some text
  | .tagged _ _ => none

/-- What the opening tag of a tagged node said. -/
def opening? : Node → Option Opening
  | .literal _ => none
  | .tagged opening _ => some opening

end Node
end Markup
end BracketMark
