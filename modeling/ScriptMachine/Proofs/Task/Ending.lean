import ScriptMachine.Task

/-!
# How tasks end

`Task.Ends` states what holds after a task, from one state: one condition for a result and
the state it comes with, another for a fault and the state that is kept.  A sequence of
tasks ends as stated exactly when its first task ends in such a way that the second does,
so that a task is followed through its parts without looking at how they are composed.
-/

namespace ScriptMachine

namespace Task

variable {σ τ α β : Type}

/-- From a state, a task ends with a result or with a fault as stated. -/
def Ends (task : Task σ α) (state : σ) (result : α → σ → Prop) (refusal : Fault → σ → Prop) :
    Prop :=
  match task.run state with
  | (.ok value, after) => result value after
  | (.error cause, after) => refusal cause after

variable {task : Task σ α} {next : α → Task σ β} {state after : σ}
  {result result' : α → σ → Prop} {final : β → σ → Prop} {refusal refusal' : Fault → σ → Prop}

theorem Ends.of_run_ok {value : α} (ends : task.Ends state result refusal)
    (run : task.run state = (.ok value, after)) : result value after := by
  unfold Ends at ends
  rw [run] at ends
  exact ends

theorem Ends.of_run_error {cause : Fault} (ends : task.Ends state result refusal)
    (run : task.run state = (.error cause, after)) : refusal cause after := by
  unfold Ends at ends
  rw [run] at ends
  exact ends

theorem Ends.mono (ends : task.Ends state result refusal)
    (result_imp : ∀ value after, result value after → result' value after)
    (refusal_imp : ∀ cause after, refusal cause after → refusal' cause after) :
    task.Ends state result' refusal' := by
  unfold Ends at ends ⊢
  split at ends
  · exact result_imp _ _ ends
  · exact refusal_imp _ _ ends

theorem ends_iff_of_run_ok {value : α} (run : task.run state = (.ok value, after)) :
    task.Ends state result refusal ↔ result value after := by
  unfold Ends
  rw [run]

theorem ends_iff_of_run_error {cause : Fault} (run : task.run state = (.error cause, after)) :
    task.Ends state result refusal ↔ refusal cause after := by
  unfold Ends
  rw [run]

@[simp] theorem ends_pure (value : α) :
    (pure value : Task σ α).Ends state result refusal ↔ result value state :=
  ends_iff_of_run_ok (run_pure value state)

@[simp] theorem ends_throw (cause : Fault) :
    (throw cause : Task σ α).Ends state result refusal ↔ refusal cause state :=
  ends_iff_of_run_error (run_throw cause state)

@[simp] theorem ends_get {result : σ → σ → Prop} :
    (get : Task σ σ).Ends state result refusal ↔ result state state :=
  ends_iff_of_run_ok (run_get state)

@[simp] theorem ends_modify (change : σ → σ) {result : PUnit → σ → Prop} :
    (modify change : Task σ PUnit).Ends state result refusal ↔ result ⟨⟩ (change state) :=
  ends_iff_of_run_ok (run_modify change state)

@[simp] theorem ends_ofUpdate (update : σ → α × σ) :
    (ofUpdate update).Ends state result refusal ↔ result (update state).1 (update state).2 :=
  ends_iff_of_run_ok (run_ofUpdate update state)

/-- A sequence ends as its second task does after the first. -/
theorem ends_bind :
    (task >>= next).Ends state final refusal ↔
      task.Ends state (fun value after => (next value).Ends after final refusal) refusal := by
  have run_eq := run_bind task next state
  rcases run : task.run state with ⟨cause | value, after⟩ <;> rw [run] at run_eq
  · rw [ends_iff_of_run_error run, ends_iff_of_run_error run_eq]
  · rw [ends_iff_of_run_ok run]
    unfold Ends
    rw [run_eq]

theorem ends_ofConversion {conversion : Except Mismatch α} :
    (ofConversion conversion : Task σ α).Ends state result refusal ↔
      (∀ value, conversion = .ok value → result value state) ∧
        ∀ mismatch, conversion = .error mismatch → refusal (.typeMismatch mismatch) state := by
  cases conversion with
  | ok value =>
      rw [ends_iff_of_run_ok (run_ofConversion_ok value state)]
      simp
  | error mismatch =>
      rw [ends_iff_of_run_error (run_ofConversion_error mismatch state)]
      simp

/-- A task on a part of the state ends as it does on that part. -/
theorem ends_within {part : τ → σ} {replace : σ → τ → τ} {whole : τ}
    {result : α → τ → Prop} {refusal : Fault → τ → Prop} :
    (within part replace task).Ends whole result refusal ↔
      task.Ends (part whole) (fun value state => result value (replace state whole))
        (fun cause state => refusal cause (replace state whole)) := by
  have run_eq := run_within part replace task whole
  rcases run : task.run (part whole) with ⟨cause | value, after⟩ <;> rw [run] at run_eq
  · rw [ends_iff_of_run_error run, ends_iff_of_run_error run_eq]
  · rw [ends_iff_of_run_ok run, ends_iff_of_run_ok run_eq]

theorem ends_forM_cons {item : β} {rest : List β} {body : β → Task σ PUnit}
    {final : PUnit → σ → Prop} :
    ((item :: rest).forM body).Ends state final refusal ↔
      (body item).Ends state (fun _ after => (rest.forM body).Ends after final refusal) refusal :=
  ends_bind

/-- What every round of a loop keeps holds at its end, and at the end of the round that
fails. -/
theorem ends_forM {items : List β} {body : β → Task σ PUnit} {kept : σ → Prop}
    (holds : kept state)
    (round : ∀ item ∈ items, ∀ state, kept state →
      (body item).Ends state (fun _ => kept) (fun _ => kept)) :
    (items.forM body).Ends state (fun _ => kept) (fun _ => kept) := by
  induction items generalizing state with
  | nil => exact (ends_pure _).mpr holds
  | cons item rest ih =>
      rw [ends_forM_cons]
      apply (round item List.mem_cons_self state holds).mono _ (fun _ _ kept => kept)
      intro _ after kept
      exact ih kept fun other member => round other (List.mem_cons_of_mem item member)

/-! ## Refusals from any state -/

/-- Wherever it begins, a task refuses only with faults as stated. -/
def RefusesOnly (task : Task σ α) (refusal : Fault → Prop) : Prop :=
  ∀ state, task.Ends state (fun _ _ => True) (fun cause _ => refusal cause)

namespace RefusesOnly

variable {refusal : Fault → Prop}

theorem pure (value : α) : (Pure.pure value : Task σ α).RefusesOnly refusal :=
  fun _ => (ends_pure value).mpr trivial

theorem throw {cause : Fault} (refused : refusal cause) :
    (MonadExcept.throw cause : Task σ α).RefusesOnly refusal :=
  fun _ => (ends_throw cause).mpr refused

theorem get : (MonadState.get : Task σ σ).RefusesOnly refusal :=
  fun _ => ends_get.mpr trivial

theorem modify (change : σ → σ) : (modify change : Task σ PUnit).RefusesOnly refusal :=
  fun _ => (ends_modify change).mpr trivial

theorem bind (first : task.RefusesOnly refusal)
    (second : ∀ value, (next value).RefusesOnly refusal) : (task >>= next).RefusesOnly refusal := by
  intro state
  apply ends_bind.mpr ((first state).mono _ (fun _ _ refused => refused))
  intro value after _
  exact second value after

theorem ofUpdate (update : σ → α × σ) : (ofUpdate update).RefusesOnly refusal :=
  fun _ => (ends_ofUpdate update).mpr trivial

/-- A conversion refuses with a mismatch. -/
theorem ofConversion (conversion : Except Mismatch α)
    (refused : ∀ mismatch, refusal (.typeMismatch mismatch)) :
    (ofConversion conversion : Task σ α).RefusesOnly refusal :=
  fun _ => ends_ofConversion.mpr ⟨fun _ _ => trivial, fun mismatch _ => refused mismatch⟩

theorem within {part : τ → σ} {replace : σ → τ → τ} (refuses : task.RefusesOnly refusal) :
    (within part replace task).RefusesOnly refusal :=
  fun whole => ends_within.mpr (refuses (part whole))

/-- A loop refuses as its rounds do. -/
theorem forM {body : β → Task σ PUnit} (round : ∀ item, (body item).RefusesOnly refusal)
    (items : List β) : (items.forM body).RefusesOnly refusal := by
  induction items with
  | nil => exact fun _ => (ends_pure _).mpr trivial
  | cons item rest ih => exact (round item).bind fun _ => ih

end RefusesOnly

end Task

end ScriptMachine
