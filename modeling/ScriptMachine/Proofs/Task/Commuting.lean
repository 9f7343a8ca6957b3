import ScriptMachine.Task

/-!
# Tasks that commute with a change

A task commutes with a change of the state if it does not see the change and does not undo it: from
the changed state it ends in the same way, also by a fault, and leaves what it would have left with
the same change.  Composed tasks commute with a change if their parts do.
-/

namespace ScriptMachine

namespace Task

variable {σ τ α β : Type}

/-- From states that differ by a change, the task ends alike and leaves states that differ by it. -/
def Commutes (task : Task σ α) (change : σ → σ) : Prop :=
  ∀ state, task.run (change state) = ((task.run state).1, change (task.run state).2)

variable {task : Task σ α} {next : α → Task σ β} {change : σ → σ}

theorem commutes_pure (value : α) : (pure value : Task σ α).Commutes change :=
  fun _ => rfl

theorem commutes_throw (cause : Fault) : (throw cause : Task σ α).Commutes change :=
  fun _ => rfl

theorem commutes_modify {modification : σ → σ}
    (commute : ∀ state, modification (change state) = change (modification state)) :
    (modify modification : Task σ PUnit).Commutes change := by
  intro state
  rw [run_modify, run_modify, commute]

theorem Commutes.bind (first : task.Commutes change)
    (second : ∀ value, (next value).Commutes change) : (task >>= next).Commutes change := by
  intro state
  rw [run_bind, run_bind, first state]
  rcases task.run state with ⟨cause | value, after⟩
  · rfl
  · exact second value after

/-- Work on a part of the state commutes with changes of the rest. -/
theorem commutes_within {part : τ → σ} {replace : σ → τ → τ} {change : τ → τ}
    (part_change : ∀ whole, part (change whole) = part whole)
    (replace_change : ∀ state whole, replace state (change whole) = change (replace state whole))
    (task : Task σ α) : (within part replace task).Commutes change := by
  intro whole
  rw [run_within, run_within, part_change, replace_change]

theorem commutes_forM {body : β → Task σ PUnit} (round : ∀ item, (body item).Commutes change)
    (items : List β) : (items.forM body).Commutes change := by
  induction items with
  | nil => exact commutes_pure _
  | cons item rest ih => exact (round item).bind fun _ => ih

end Task

end ScriptMachine
