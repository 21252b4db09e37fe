/-!
# Computations that fail and keep a state

Registries and renderers are written in one way: a state goes in, and a result and a state come
out, also when the result is an error.  Here is what a sequence of two such computations does,
for either of them, and for computations that fail but keep no state.
-/

namespace BracketMark

variable {ε σ α β : Type} {action : ExceptT ε (StateM σ) α} {next : α → ExceptT ε (StateM σ) β}
  {state between state' : σ}

/-- What comes first succeeds, and the rest goes on from there. -/
theorem run_bind_ok {a : α} (h : action.run state = (.ok a, between)) :
    (action >>= next).run state = (next a).run between := by
  show (ExceptT.bindCont next (action.run state).1 : StateM _ _) (action.run state).2 = _
  rw [h]
  rfl

/-- What comes first fails, and so does the whole. -/
theorem run_bind_error {e : ε} (h : action.run state = (.error e, between)) :
    (action >>= next).run state = (.error e, between) := by
  show (ExceptT.bindCont next (action.run state).1 : StateM _ _) (action.run state).2 = _
  rw [h]
  rfl

/-- A sequence that succeeds succeeds step by step. -/
theorem exists_of_run_bind_ok {b : β} (h : (action >>= next).run state = (.ok b, state')) :
    ∃ a between, action.run state = (.ok a, between) ∧
      (next a).run between = (.ok b, state') := by
  match hrun : action.run state with
  | (.ok a, between) => exact ⟨a, between, rfl, (run_bind_ok hrun).symm.trans h⟩
  | (.error e, between) =>
    rw [run_bind_error hrun] at h
    cases h

/-- A sequence that fails fails at its first part, or at its second after the first. -/
theorem cases_of_run_bind_error {e : ε} (h : (action >>= next).run state = (.error e, state')) :
    action.run state = (.error e, state') ∨ ∃ a between, action.run state = (.ok a, between) ∧
      (next a).run between = (.error e, state') := by
  match hrun : action.run state with
  | (.ok a, between) => exact Or.inr ⟨a, between, rfl, (run_bind_ok hrun).symm.trans h⟩
  | (.error e', between) =>
    rw [run_bind_error hrun] at h
    obtain ⟨he, rfl⟩ := Prod.mk.inj h
    cases he
    exact Or.inl rfl

/-- Without a state, too, a sequence succeeds step by step. -/
theorem exists_of_bind_ok {result : Except ε α} {rest : α → Except ε β} {b : β}
    (h : (result >>= rest) = .ok b) : ∃ a, result = .ok a ∧ rest a = .ok b := by
  cases result with
  | error e => cases h
  | ok a => exact ⟨a, rfl, h⟩

end BracketMark
