import ScriptMachine.Fault

/-!
# Tasks

A task works on a state and ends with a result or a fault.  The state it leaves behind is
kept in both cases: what was done before a fault is not undone.
-/

namespace ScriptMachine

/-- Work on a state that can fault. -/
abbrev Task (σ α : Type) := ExceptT Fault (StateM σ) α

namespace Task

/-- The result of a conversion, or the fault of its refusal. -/
def ofConversion {σ α : Type} : Except Mismatch α → Task σ α
  | .ok value => pure value
  | .error mismatch => throw (.typeMismatch mismatch)

/-- Work that cannot fail, given by its result and the state it leaves. -/
def ofUpdate {σ α : Type} (update : σ → α × σ) : Task σ α :=
  ExceptT.lift update

/-- Work that can be refused, given by its result and the state it leaves. -/
def ofAttempt {σ α : Type} (attempt : σ → Except Mismatch α × σ) : Task σ α := do
  ofConversion (← ofUpdate attempt)

/-- Work on a part of the state. -/
def within {σ τ α : Type} (part : τ → σ) (replace : σ → τ → τ) (task : Task σ α) :
    Task τ α :=
  fun whole =>
    let (result, state) := task.run (part whole)
    (result, replace state whole)

/-! ## Running -/

section Running

variable {σ τ α β : Type}

theorem run_pure (value : α) (state : σ) :
    (pure value : Task σ α).run state = (.ok value, state) := rfl

theorem run_throw (cause : Fault) (state : σ) :
    (throw cause : Task σ α).run state = (.error cause, state) := rfl

theorem run_bind (task : Task σ α) (next : α → Task σ β) (state : σ) :
    (task >>= next).run state =
      match task.run state with
      | (.ok value, after) => (next value).run after
      | (.error cause, after) => (.error cause, after) := by
  change ExceptT.bindCont next (task.run state).1 (task.run state).2 = _
  rcases task.run state with ⟨_ | _, after⟩ <;> rfl

theorem run_tryCatch (task : Task σ α) (handler : Fault → Task σ α) (state : σ) :
    (tryCatch task handler).run state =
      match task.run state with
      | (.ok value, after) => (.ok value, after)
      | (.error cause, after) => (handler cause).run after := by
  change ExceptT.tryCatch task handler state = _
  simp only [ExceptT.tryCatch, ExceptT.mk, bind, StateT.bind, ExceptT.run]
  rcases task state with ⟨_ | _, after⟩ <;> rfl

theorem run_get (state : σ) : (get : Task σ σ).run state = (.ok state, state) := rfl

theorem run_modify (change : σ → σ) (state : σ) :
    (modify change : Task σ PUnit).run state = (.ok ⟨⟩, change state) := rfl

theorem run_ofConversion_ok (value : α) (state : σ) :
    (ofConversion (.ok value) : Task σ α).run state = (.ok value, state) := rfl

theorem run_ofConversion_error (mismatch : Mismatch) (state : σ) :
    (ofConversion (.error mismatch) : Task σ α).run state =
      (.error (.typeMismatch mismatch), state) := rfl

theorem run_ofUpdate (update : σ → α × σ) (state : σ) :
    (ofUpdate update).run state = (.ok (update state).1, (update state).2) := rfl

theorem run_within (part : τ → σ) (replace : σ → τ → τ) (task : Task σ α) (whole : τ) :
    (within part replace task).run whole =
      ((task.run (part whole)).1, replace (task.run (part whole)).2 whole) := rfl

end Running

end Task

end ScriptMachine
