import BracketMark.Markup.Nest

/-!
# A forest from left to right

Read from left to right a forest is a list of events: characters, and tags that are entered and
left.  A nest has its events too, those up to where it has come, and no later token takes one of
them back (`Nest.events_step`, `Nest.events_run`, `Nest.events_finish`).  So two nests that differ
in an event end in different forests, whatever follows.
-/

namespace BracketMark
namespace Markup

inductive Event where
  | char (c : Char)
  | enter (opening : Opening)
  | leave

mutual

def Node.events : Node → List Event
  | .literal text => text.toList.map .char
  | .tagged opening children => .enter opening :: (events children ++ [.leave])

def events : List Node → List Event
  | [] => []
  | node :: nodes => node.events ++ events nodes

end

theorem events_append (nodes more : List Node) :
    events (nodes ++ more) = events nodes ++ events more := by
  induction nodes with
  | nil => rfl
  | cons node nodes ih => rw [List.cons_append, events, events, ih, List.append_assoc]

theorem events_reverse_cons (node : Node) (nodes : List Node) :
    events (node :: nodes).reverse = events nodes.reverse ++ node.events := by
  rw [List.reverse_cons, events_append, events, events, List.append_nil]

theorem eq_of_common_events {events more : List Event} {event other : Event}
    (hevent : events ++ [event] <+: more) (hother : events ++ [other] <+: more) :
    event = other := by
  obtain ⟨_, rfl⟩ := hevent
  obtain ⟨_, hsame⟩ := hother
  rw [List.append_assoc, List.append_assoc] at hsame
  exact (List.cons.inj (List.append_cancel_left hsame)).1.symm

namespace Nest

/-- The events up to the inside of the innermost open tag. -/
def openEvents : List OpenTag → List Event
  | [] => []
  | tag :: stack => openEvents stack ++ Markup.events tag.before.reverse ++ [.enter tag.opening]

def events (nest : Nest) : List Event :=
  openEvents nest.stack ++ Markup.events nest.current.reverse

theorem events_appendText (text : String) (nodes : List Node) :
    Markup.events (appendText text nodes).reverse =
      Markup.events nodes.reverse ++ text.toList.map .char := by
  unfold appendText
  split
  case h_1 last rest =>
    rw [events_reverse_cons, events_reverse_cons, Node.events, Node.events, String.toList_append,
      List.map_append, List.append_assoc]
  case h_2 =>
    split
    case isTrue hempty => rw [hempty, String.toList_empty, List.map_nil, List.append_nil]
    case isFalse => rw [events_reverse_cons, Node.events]

theorem events_addText (nest : Nest) (text : String) :
    (nest.addText text).events = nest.events ++ text.toList.map .char := by
  rw [events, events, List.append_assoc, ← events_appendText]
  rfl

theorem events_push (nest : Nest) (opening : Opening) :
    (nest.push opening).events = nest.events ++ [.enter opening] :=
  List.append_nil _

/-- The innermost tag is left. -/
theorem events_closed (current : List Node) (tag : OpenTag) (stack : List OpenTag) :
    (⟨.tagged tag.opening current.reverse :: tag.before, stack⟩ : Nest).events =
      (⟨current, tag :: stack⟩ : Nest).events ++ [.leave] := by
  simp only [events, openEvents, events_reverse_cons, Node.events, List.append_assoc,
    List.cons_append, List.nil_append]

theorem events_closeThrough {name : String} {stack : List OpenTag} {current : List Node}
    (hopen : stack.any (·.opening.name == name) = true) :
    (⟨current, stack⟩ : Nest).events ++ [.leave] <+: (closeThrough name current stack).events := by
  induction stack generalizing current with
  | nil => cases hopen
  | cons tag stack ih =>
    rw [closeThrough, ← events_closed]
    split
    case isTrue => exact List.prefix_rfl
    case isFalse hname =>
      have hrest : stack.any (·.opening.name == name) = true := by
        rw [List.any_cons, beq_eq_false_iff_ne.2 hname, Bool.false_or] at hopen
        exact hopen
      exact (List.prefix_append _ _).trans (ih hrest)

/-- **One token** takes no event back. -/
theorem events_step (nest : Nest) (limit : Nat) (token : Token) (mark : Bool) :
    nest.events <+: (nest.step limit token mark).events := by
  have haddText (text : String) : nest.events <+: (nest.addText text).events := by
    rw [events_addText]
    exact List.prefix_append _ _
  cases token with
  | opening raw opening =>
    rw [step]
    split
    case isTrue =>
      rw [events_push]
      exact List.prefix_append _ _
    case isFalse => exact haddText raw
  | closing raw name =>
    rw [step]
    split
    case isTrue hopen => exact (List.prefix_append _ _).trans (events_closeThrough hopen)
    case isFalse => exact haddText raw
  | text raw => exact haddText raw
  | malformed raw => exact haddText raw

theorem events_run (nest : Nest) (limit : Nat) (tokens : List (Token × Bool)) :
    nest.events <+: (nest.run limit tokens).events := by
  induction tokens generalizing nest with
  | nil => exact List.prefix_rfl
  | cons p tokens ih => exact (nest.events_step limit p.1 p.2).trans (ih _)

theorem events_finish (nest : Nest) : nest.events <+: Markup.events nest.finish := by
  obtain ⟨current, stack⟩ := nest
  rw [finish]
  induction stack generalizing current with
  | nil => exact List.prefix_rfl
  | cons tag stack ih =>
    have hclosed := ih (.tagged tag.opening current.reverse :: tag.before)
    rw [events_closed] at hclosed
    exact (List.prefix_append _ _).trans hclosed

end Nest

end Markup
end BracketMark
