import BracketMark.Context

/-!
# What a context answers

A context is read in two ways.  A hook looks names up, from the innermost frame outwards; a
template is given all that shows as one frame, which is put together from the outermost frame
inwards.  Both say the same of every name (`get?_flatten`).

A frame is open as long as its guard is held.  So a run of moves has a number of guards at each
point (`guards`), unless it drops one that it does not hold.  As long as it drops none but its own,
it stands on the frames that were there before it and touches none of them (`StandsOn.run`); and if
it drops all of its own, nothing of it is left but what it did to the innermost frame.
-/

namespace BracketMark

open Template

namespace Context

/-- All frames, from the inside out. -/
def frames (ctx : Context) : List Frame := ctx.top :: ctx.below

/-! ## What shows -/

/-- A look-up finds what shows. -/
theorem get?_flatten (ctx : Context) (key : String) : ctx.flatten.get? key = ctx.get? key := by
  rw [flatten, get?]
  induction ctx.top :: ctx.below with
  | nil => rfl
  | cons frame frames ih =>
    rw [List.foldr_cons, Dict.get?_overlay, ih, List.findSome?_cons]
    cases frame.get? key <;> rfl

/-- Frames around a new one matter by what they show. -/
theorem get?_congr {below below' : List Frame} {key : String}
    (h : below.findSome? (·.get? key) = below'.findSome? (·.get? key)) (frame : Frame) :
    Context.get? ⟨frame, below⟩ key = Context.get? ⟨frame, below'⟩ key := by
  rw [get?, get?, List.findSome?_cons, List.findSome?_cons, h]

theorem flatten_congr {below below' : List Frame}
    (h : ∀ key : String, below.findSome? (·.get? key) = below'.findSome? (·.get? key))
    (frame : Frame) : Context.flatten ⟨frame, below⟩ = Context.flatten ⟨frame, below'⟩ := by
  apply Dict.ext_get?
  intro key
  rw [get?_flatten, get?_flatten, get?_congr (h key)]

/-! ## Moves -/

/-- What may be done with a context. -/
inductive Move where
  | push
  /-- The guard of the innermost frame is dropped, which closes the frame. -/
  | drop
  | insert (key : String) (value : Value)
  | remove (key : String)

def perform (ctx : Context) : Move → Context
  | .push => ctx.push
  | .drop => ctx.pop
  | .insert key value => ctx.insert key value
  | .remove key => (ctx.remove key).2

def run (ctx : Context) (moves : List Move) : Context := moves.foldl perform ctx

theorem run_append (ctx : Context) (moves more : List Move) :
    ctx.run (moves ++ more) = (ctx.run moves).run more :=
  List.foldl_append

/-- How many guards are held after a move, when so many were before it; a guard that is not held
    cannot be dropped. -/
def Move.guards : Move → Nat → Option Nat
  | .push, held => some (held + 1)
  | .drop, 0 => none
  | .drop, held + 1 => some held
  | .insert _ _, held => some held
  | .remove _, held => some held

/-- How many guards are held after moves, when so many were before them. -/
def guards (held : Nat) (moves : List Move) : Option Nat :=
  moves.foldlM (fun held move => move.guards held) held

/-- A run that drops the guards it takes and no others. -/
def Nested (moves : List Move) : Prop := guards 0 moves = some 0

instance (moves : List Move) : Decidable (Nested moves) :=
  inferInstanceAs (Decidable (_ = _))

/-! ## Frames below a run -/

/-- The context has so many open frames, and below them are these. -/
def StandsOn (base : List Frame) (held : Nat) (ctx : Context) : Prop :=
  ∃ own, own.length = held ∧ ctx.below = own ++ base

theorem standsOn_push (ctx : Context) : StandsOn ctx.frames 0 ctx.push :=
  ⟨[], rfl, rfl⟩

theorem standsOn_empty : StandsOn [] 0 empty :=
  ⟨[], rfl, rfl⟩

variable {base : List Frame} {held held' : Nat} {ctx : Context}

theorem StandsOn.perform {move : Move} (h : StandsOn base held ctx)
    (hguards : move.guards held = some held') : StandsOn base held' (ctx.perform move) := by
  obtain ⟨own, hlength, hbelow⟩ := h
  cases move with
  | push =>
    cases hguards
    exact ⟨ctx.top :: own, by rw [List.length_cons, hlength], congrArg (ctx.top :: ·) hbelow⟩
  | drop =>
    cases own with
    | nil =>
      obtain rfl : held = 0 := hlength.symm
      cases hguards
    | cons frame own =>
      obtain rfl : held = own.length + 1 := hlength.symm
      cases hguards
      refine ⟨own, rfl, ?_⟩
      rw [Context.perform, pop, hbelow]
      rfl
  | insert key value =>
    cases hguards
    exact ⟨own, hlength, hbelow⟩
  | remove key =>
    cases hguards
    exact ⟨own, hlength, hbelow⟩

/-- **A run that drops no guard but its own leaves the frames below it alone.** -/
theorem StandsOn.run {moves : List Move} (h : StandsOn base held ctx)
    (hguards : guards held moves = some held') : StandsOn base held' (ctx.run moves) := by
  induction moves generalizing held ctx with
  | nil =>
    cases hguards
    exact h
  | cons move moves ih =>
    rw [guards, List.foldlM_cons] at hguards
    obtain ⟨between, hmove, hmoves⟩ := Option.bind_eq_some_iff.1 hguards
    exact ih (h.perform hmove) hmoves

/-- A run may be left at any point. -/
theorem exists_guards_of_append {moves more : List Move}
    (h : guards held (moves ++ more) = some held') :
    ∃ between, guards held moves = some between := by
  rw [guards, List.foldlM_append] at h
  obtain ⟨between, hmoves, -⟩ := Option.bind_eq_some_iff.1 h
  exact ⟨between, hmoves⟩

/-- When all guards of a run are dropped, the frames below it are all that there is below. -/
theorem StandsOn.below_eq (h : StandsOn base 0 ctx) : ctx.below = base := by
  obtain ⟨own, hlength, hbelow⟩ := h
  rw [hbelow, List.length_eq_zero_iff.1 hlength, List.nil_append]

/-- A frame that is opened, used and closed leaves no trace. -/
theorem run_frame {inside : List Move} (h : Nested inside) (ctx : Context) :
    ctx.run (.push :: (inside ++ [.drop])) = ctx := by
  have hbelow : (ctx.push.run inside).below = ctx.frames := ((standsOn_push ctx).run h).below_eq
  show ctx.push.run (inside ++ [.drop]) = ctx
  rw [run_append]
  show (ctx.push.run inside).pop = ctx
  rw [pop, hbelow, frames]

/-! ## Every run -/

/-- **Look-ups and what shows agree after every run**, for names that are bound and for names that
    are not.  There is always a frame, and one more than guards are held.  Inside a frame that was
    opened, a properly nested run keeps all frames below at every point; at its end they are all
    that there is below; and closing the frame gives back the context that it was opened on, so
    that every name stands for what it stood for outside. -/
theorem run_agrees (moves : List Move) :
    let ctx := empty.run moves
    1 ≤ ctx.depth ∧ (∀ held, guards 0 moves = some held → ctx.depth = held + 1) ∧
      (∀ key, ctx.get? key = ctx.flatten.get? key) ∧
      ∀ inside, Nested inside →
        (∀ part rest, inside = part ++ rest → ctx.frames <:+ (ctx.push.run part).below) ∧
        (ctx.push.run inside).below = ctx.frames ∧
        ctx.run (.push :: (inside ++ [.drop])) = ctx ∧
        ∀ key, (ctx.run (.push :: (inside ++ [.drop]))).get? key = ctx.get? key := by
  intro ctx
  refine ⟨Nat.le_add_left 1 _, fun held hheld => ?_, fun key => (ctx.get?_flatten key).symm,
    fun inside hinside => ⟨?_, ?_, run_frame hinside ctx, fun key => ?_⟩⟩
  · obtain ⟨own, hlength, hbelow⟩ := standsOn_empty.run hheld
    rw [List.append_nil] at hbelow
    rw [depth, hbelow, hlength]
  · rintro part rest rfl
    obtain ⟨held, hpart⟩ := exists_guards_of_append hinside
    obtain ⟨own, -, hbelow⟩ := (standsOn_push ctx).run hpart
    exact ⟨own, hbelow.symm⟩
  · exact ((standsOn_push ctx).run hinside).below_eq
  · rw [run_frame hinside ctx]

/-- Inside the frame the name is hidden, hidden again, removed twice, and hidden in the end. -/
theorem run_agrees_hidden :
    let moves := [.insert "width" (.text "10"), .push, .insert "alt" (.text "a cat")]
    let inside := [.insert "width" (.text "wide"), .push, .insert "width" (.text "20"), .drop,
      .remove "width", .push, .remove "width", .drop, .insert "width" (.text "30")]
    guards 0 moves = some 1 ∧ Nested inside ∧ (empty.run moves).depth = 2 ∧
      ((empty.run moves).push.run inside).get? "width" = some (.text "30") ∧
      ((empty.run moves).run (.push :: (inside ++ [.drop]))).get? "width" = some (.text "10") := by
  intro moves inside
  obtain ⟨-, hdepth, -, hnested⟩ := run_agrees moves
  obtain ⟨-, -, -, hkeys⟩ := hnested inside rfl
  exact ⟨rfl, rfl, hdepth 1 rfl, rfl, (hkeys "width").trans rfl⟩

end Context
end BracketMark
