import BracketMark.Tag.Definition

/-!
# Document trees

A built document: literal texts, tags bound to their definitions, and blocks of siblings.  A
lone sibling stands for itself; any other number of siblings, none included, is a block.
-/

namespace BracketMark
namespace Document

open Tag

inductive Tree where
  /-- Text, escaped when it is rendered. -/
  | literal (text : String)
  /-- Siblings, rendered one after another. -/
  | block (children : List Tree)
  /-- A tag, rendered through its template. -/
  | tag (definition : Definition) (args : Arguments) (contents : Tree)

namespace Tree

instance : Inhabited Tree := ⟨.block []⟩

/-- Siblings as one tree. -/
def ofSiblings : List Tree → Tree
  | [tree] => tree
  | trees => .block trees

/-- A tag that keeps those of the arguments that its definition accepts. -/
def tagWith (definition : Definition) (contents : Tree) (arg : Option String)
    (kwargs : Dict String) : Tree :=
  .tag definition (.select definition.contract arg kwargs) contents

mutual

/-- The literal text of a tree, without markup. -/
def plainText : Tree → String
  | .literal text => text
  | .block children => plainTexts children
  | .tag _ _ contents => contents.plainText

def plainTexts : List Tree → String
  | [] => ""
  | tree :: trees => tree.plainText ++ plainTexts trees

end

mutual

/-- What hooks see of a tree. -/
def view : Tree → View
  | .literal text => .literal text
  | .block children => .block (views children)
  | .tag definition args contents => .tag definition.profile args contents.view

def views : List Tree → List View
  | [] => []
  | tree :: trees => tree.view :: views trees

end

mutual

@[simp] theorem plainText_view (tree : Tree) : tree.view.plainText = tree.plainText := by
  match tree with
  | .literal text => rw [view, View.plainText, plainText]
  | .block children => rw [view, View.plainText, plainText, viewTexts_views children]
  | .tag _ _ contents => rw [view, View.plainText, plainText, plainText_view contents]

theorem viewTexts_views (trees : List Tree) : viewTexts (views trees) = plainTexts trees := by
  match trees with
  | [] => rfl
  | tree :: trees =>
    rw [views, viewTexts, plainTexts, plainText_view tree, viewTexts_views trees]

end

def literal? : Tree → Option String
  | .literal text => some text
  | _ => none

def block? : Tree → Option (List Tree)
  | .block children => some children
  | _ => none

def definition? : Tree → Option Definition
  | .tag definition _ _ => some definition
  | _ => none

end Tree
end Document
end BracketMark
