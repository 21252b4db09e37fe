import BracketMark.Markup.Node
import BracketMark.Markup.Closable

/-!
# Nesting

Tokens are nested into a forest by one pass with a stack of open tags.  It never fails:

* an opening that nothing closes, or that would lie deeper than the limit, is text;
* a closing that closes nothing is text;
* a closing that fits an outer tag closes the inner ones with it.

The stack is kept as a zipper: the nodes read so far inside the innermost open tag, and for
each open tag the nodes that stand before it.
-/

namespace BracketMark
namespace Markup

/-- An open tag. -/
structure OpenTag where
  opening : Opening
  /-- The nodes before the tag, the last one first. -/
  before : List Node

/-- A forest under construction. -/
structure Nest where
  /-- The nodes inside the innermost open tag, the last one first. -/
  current : List Node
  /-- The open tags, the innermost first. -/
  stack : List OpenTag

namespace Nest

def empty : Nest := ⟨[], []⟩

/-- Text at the end of a sequence whose last node comes first: it joins a literal that is
    already there, and empty text leaves no node. -/
def appendText (text : String) : List Node → List Node
  | .literal last :: rest => .literal (last ++ text) :: rest
  | nodes => if text = "" then nodes else .literal text :: nodes

def addText (nest : Nest) (text : String) : Nest :=
  { nest with current := appendText text nest.current }

def push (nest : Nest) (opening : Opening) : Nest :=
  ⟨[], ⟨opening, nest.current⟩ :: nest.stack⟩

/-- Whether a tag of this name is open. -/
def isOpen (nest : Nest) (name : String) : Bool :=
  nest.stack.any (·.opening.name == name)

/-- Tags close from the inside out, up to and including the first of this name. -/
def closeThrough (name : String) : List Node → List OpenTag → Nest
  | current, [] => ⟨current, []⟩
  | current, tag :: stack =>
    let closed := .tagged tag.opening current.reverse :: tag.before
    if tag.opening.name = name then ⟨closed, stack⟩ else closeThrough name closed stack

/-- All open tags close. -/
def closeAll : List Node → List OpenTag → Forest
  | current, [] => current.reverse
  | current, tag :: stack => closeAll (.tagged tag.opening current.reverse :: tag.before) stack

/-- One token, with whether it is a closable opening. -/
def step (limit : Nat) (nest : Nest) (token : Token) (mark : Bool) : Nest :=
  match token with
  | .text raw | .malformed raw => nest.addText raw
  | .opening raw tag =>
    -- what cannot be closed, or lies too deep, goes back into the text as it was written
    if mark && nest.stack.length < limit then nest.push tag else nest.addText raw
  | .closing raw name =>
    if nest.isOpen name then closeThrough name nest.current nest.stack else nest.addText raw

def run (limit : Nat) (nest : Nest) (tokens : List (Token × Bool)) : Nest :=
  tokens.foldl (fun nest p => nest.step limit p.1 p.2) nest

theorem run_cons (limit : Nat) (nest : Nest) (p : Token × Bool) (tokens : List (Token × Bool)) :
    nest.run limit (p :: tokens) = (nest.step limit p.1 p.2).run limit tokens := rfl

theorem run_append (limit : Nat) (nest : Nest) (front back : List (Token × Bool)) :
    nest.run limit (front ++ back) = (nest.run limit front).run limit back :=
  List.foldl_append

/-- The forest read so far, every open tag closed. -/
def finish (nest : Nest) : Forest :=
  closeAll nest.current nest.stack

end Nest

/-- The forest that tokens nest into, with tags at most `limit` deep. -/
def nestTokens (limit : Nat) (tokens : List Token) : Forest :=
  (Nest.empty.run limit (tokens.zip (closable tokens))).finish

/-- The nesting limit when none is given. -/
def defaultLimit : Nat := 128

/-- The forest that markup reads as, with tags at most `limit` deep. -/
def parse (limit : Nat) (markup : String) : Forest :=
  nestTokens limit (tokens markup)

end Markup
end BracketMark
