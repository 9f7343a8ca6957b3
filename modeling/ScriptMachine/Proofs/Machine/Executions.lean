import ScriptMachine.Engine
import ScriptMachine.Proofs.Machine.Runs

/-!
# Executions of engines

An execution is the run of the machine with which an engine starts.  Runs of machines are
put together and taken apart here, as steps are never made in two ways: what a machine has
reached it reaches in every longer run, and an execution that has ended has ended once and
for all.

`Engine.Reaches` is about the machines of one execution, whatever the number of steps that it
is given.
-/

namespace ScriptMachine

namespace Machine

variable {host : Host} {machine middle next : Machine} {outcome : Outcome} {steps : Nat}

/-- A run goes on with the machine that it has reached. -/
theorem run_add (runs : machine.run host steps = .running middle) (more : Nat) :
    machine.run host (steps + more) = middle.run host more := by
  induction steps generalizing machine with
  | zero =>
      cases runs
      rw [Nat.zero_add]
  | succ steps ih =>
      rw [Nat.succ_add]
      rw [run] at runs ⊢
      split at runs
      · exact ih runs
      · cases runs

theorem run_one (machine : Machine) : machine.run host 1 = machine.step host := by
  simp only [run]
  split <;> simp_all

theorem run_succ (runs : machine.run host steps = .running middle) :
    machine.run host (steps + 1) = middle.step host := by
  rw [run_add runs, run_one]

/-- The last step of a run is made by the machine that one step less reaches. -/
theorem exists_last_of_run (runs : machine.run host (steps + 1) = .running next) :
    ∃ last, machine.run host steps = .running last ∧ last.step host = .running next := by
  induction steps generalizing machine with
  | zero => exact ⟨machine, rfl, (run_one machine).symm.trans runs⟩
  | succ steps ih =>
      rw [run] at runs
      split at runs
      · rename_i middle stepped
        obtain ⟨last, reached, ended⟩ := ih runs
        refine ⟨last, ?_, ended⟩
        rw [run, stepped]
        exact reached
      · cases runs

/-- A run that has ended does not change with the steps that are left. -/
theorem run_add_of_finished (runs : machine.run host steps = .finished outcome) (more : Nat) :
    machine.run host (steps + more) = .finished outcome := by
  induction steps generalizing machine with
  | zero => cases runs
  | succ steps ih =>
      rw [Nat.succ_add]
      rw [run] at runs ⊢
      split at runs
      · exact ih runs
      · exact runs

/-- A run that ends has been to what it reaches before. -/
theorem lt_of_run_finished {taken : Nat} (runs : machine.run host steps = .finished outcome)
    (reached : machine.run host taken = .running middle) : taken < steps := by
  apply Nat.lt_of_not_le
  intro steps_le
  obtain ⟨more, rfl⟩ := Nat.exists_eq_add_of_le steps_le
  cases (run_add_of_finished runs more).symm.trans reached

end Machine

namespace Engine

variable {engine : Engine} {entry : Entry} {arguments : Option (List Value)} {fresh : Bool}
  {machine next : Machine} {outcome : Outcome}

/-! ## Starts -/

/-- An execution that starts does so with the linked program at its entry. -/
theorem exists_linked_of_start {initial : Machine}
    (starts : engine.start entry arguments fresh = .running initial) :
    ∃ linked offset,
      engine.program.link engine.host arguments fresh engine.shared = (.ok (), linked) ∧
        linked.scope.entryOffset entry = .ok offset ∧
        initial = ⟨linked.shared, ⟨engine.program, linked.scope, 0, offset, []⟩, []⟩ := by
  unfold start at starts
  split at starts
  · cases starts
  · rename_i linked links
    split at starts
    · cases starts
    · rename_i offset entered
      cases starts
      exact ⟨linked, offset, links, entered, rfl⟩

/-- An execution that does not start has a program that is not linked, or no entry. -/
theorem result_of_start
    (starts : engine.start entry arguments fresh = .finished outcome) :
    (∃ error linked,
      engine.program.link engine.host arguments fresh engine.shared = (.error error, linked) ∧
        outcome.result = .error error) ∨
    ∃ cause linked,
      engine.program.link engine.host arguments fresh engine.shared = (.ok (), linked) ∧
        linked.scope.entryOffset entry = .error cause ∧
        outcome.result = .error (.fault cause none) := by
  unfold start at starts
  split at starts
  · rename_i links
    cases starts
    exact .inl ⟨_, _, links, rfl⟩
  · rename_i links
    split at starts
    · rename_i missing
      cases starts
      exact .inr ⟨_, _, links, missing, rfl⟩
    · cases starts

/-- An execution that does not start leaves what linking leaves. -/
theorem linked_of_start (starts : engine.start entry arguments fresh = .finished outcome) :
    ∃ result linked error,
      engine.program.link engine.host arguments fresh engine.shared = (result, linked) ∧
        outcome = ⟨.error error, linked.shared, linked.scope⟩ := by
  unfold start at starts
  split at starts
  · rename_i links
    cases starts
    exact ⟨_, _, _, links, rfl⟩
  · rename_i links
    split at starts
    · cases starts
      exact ⟨_, _, _, links, rfl⟩
    · cases starts

/-! ## What an execution does not change -/

theorem execute_keeps (engine : Engine) (steps : Nat) (entry : Entry)
    (arguments : Option (List Value)) (fresh : Bool) :
    (engine.execute steps entry arguments fresh).2.program = engine.program ∧
      (engine.execute steps entry arguments fresh).2.host = engine.host := by
  simp only [execute, executeObserved]
  split <;> exact ⟨rfl, rfl⟩

theorem lookupVariable_keeps (engine : Engine) (name : String) :
    (engine.lookupVariable name).2.program = engine.program ∧
      (engine.lookupVariable name).2.host = engine.host := by
  unfold lookupVariable
  split <;> exact ⟨rfl, rfl⟩

theorem setVariable_keeps (engine : Engine) (name : String) (value : Value) :
    (engine.setVariable name value).2.program = engine.program ∧
      (engine.setVariable name value).2.host = engine.host := by
  unfold setVariable
  split <;> exact ⟨rfl, rfl⟩

/-! ## Machines of one execution -/

/-- The execution comes to a machine. -/
def Reaches (engine : Engine) (entry : Entry) (arguments : Option (List Value)) (fresh : Bool)
    (machine : Machine) : Prop :=
  ∃ initial steps, engine.start entry arguments fresh = .running initial ∧
    initial.run engine.host steps = .running machine

theorem Reaches.step (reaches : engine.Reaches entry arguments fresh machine)
    (stepped : machine.step engine.host = .running next) :
    engine.Reaches entry arguments fresh next := by
  obtain ⟨initial, steps, starts, runs⟩ := reaches
  exact ⟨initial, steps + 1, starts, (Machine.run_succ runs).trans stepped⟩

/-- What holds at the start and is kept by every step holds wherever the execution comes. -/
theorem Reaches.holds {holds : Machine → Prop}
    (initially : ∀ initial, engine.start entry arguments fresh = .running initial → holds initial)
    (keeps : ∀ before after, engine.Reaches entry arguments fresh before → holds before →
      before.step engine.host = .running after → holds after)
    (reaches : engine.Reaches entry arguments fresh machine) : holds machine := by
  obtain ⟨initial, steps, starts, runs⟩ := reaches
  have reached : engine.Reaches entry arguments fresh machine ∧ holds machine := by
    apply Machine.holds_of_run _ ⟨⟨initial, 0, starts, rfl⟩, initially initial starts⟩ runs
    rintro before after ⟨reaches, held⟩ stepped
    exact ⟨reaches.step stepped, keeps before after reaches held stepped⟩
  exact reached.2

/-! ## Results -/

/-- How an execution within a number of steps gets its result. -/
inductive Results (engine : Engine) (steps : Nat) (entry : Entry)
    (arguments : Option (List Value)) (fresh : Bool) : Except ExecutionError Value → Prop where
  | notStarted {outcome : Outcome}
      (starts : engine.start entry arguments fresh = .finished outcome) :
      Results engine steps entry arguments fresh outcome.result
  | ended {initial : Machine} {outcome : Outcome}
      (starts : engine.start entry arguments fresh = .running initial)
      (runs : initial.run engine.host steps = .finished outcome) :
      Results engine steps entry arguments fresh outcome.result

theorem execute_eq_some_iff {steps : Nat} {result : Except ExecutionError Value} :
    (engine.execute steps entry arguments fresh).1 = some result ↔
      engine.Results steps entry arguments fresh result := by
  simp only [execute, executeObserved]
  cases starts : engine.start entry arguments fresh with
  | finished outcome =>
      constructor
      · rintro ⟨⟩
        exact .notStarted starts
      · intro results
        cases results with
        | notStarted starts' =>
            cases starts.symm.trans starts'
            rfl
        | ended starts' => cases starts.symm.trans starts'
  | running initial =>
      simp only [Machine.snd_runObserved]
      cases runs : initial.run engine.host steps with
      | running machine =>
          constructor
          · rintro ⟨⟩
          · intro results
            cases results with
            | notStarted starts' => cases starts.symm.trans starts'
            | ended starts' runs' =>
                cases starts.symm.trans starts'
                cases runs.symm.trans runs'
      | finished outcome =>
          constructor
          · rintro ⟨⟩
            exact .ended starts runs
          · intro results
            cases results with
            | notStarted starts' => cases starts.symm.trans starts'
            | ended starts' runs' =>
                cases starts.symm.trans starts'
                cases runs.symm.trans runs'
                rfl

/-- An execution with a result was refused at the start or ends with a step. -/
theorem exists_last_of_execute {steps : Nat} {result : Except ExecutionError Value}
    (executed : (engine.execute steps entry arguments fresh).1 = some result) :
    ∃ outcome, outcome.result = result ∧
      (engine.start entry arguments fresh = .finished outcome ∨
        ∃ last, engine.Reaches entry arguments fresh last ∧
          last.step engine.host = .finished outcome) := by
  cases execute_eq_some_iff.mp executed with
  | notStarted starts => exact ⟨_, rfl, .inl starts⟩
  | ended starts runs =>
      obtain ⟨taken, last, reached, ended⟩ := Machine.step_of_run_finished runs
      exact ⟨_, rfl, .inr ⟨last, ⟨_, taken, starts, reached⟩, ended⟩⟩

/-- An execution with a result leaves what is left when it is refused at the start, or by the step
with which it ends. -/
theorem settle_of_execute {steps : Nat} {result : Except ExecutionError Value} {after : Engine}
    (executed : engine.execute steps entry arguments fresh = (some result, after)) :
    ∃ outcome, outcome.result = result ∧ after = engine.settle outcome ∧
      (engine.start entry arguments fresh = .finished outcome ∨
        ∃ initial taken last, engine.start entry arguments fresh = .running initial ∧
          taken < steps ∧ initial.run engine.host taken = .running last ∧
            last.step engine.host = .finished outcome) := by
  simp only [execute, executeObserved] at executed
  cases starts : engine.start entry arguments fresh with
  | finished outcome =>
      rw [starts] at executed
      cases executed
      exact ⟨outcome, rfl, rfl, .inl rfl⟩
  | running initial =>
      rw [starts] at executed
      simp only [Machine.snd_runObserved] at executed
      cases runs : initial.run engine.host steps with
      | running machine =>
          rw [runs] at executed
          cases executed
      | finished outcome =>
          rw [runs] at executed
          cases executed
          obtain ⟨taken, last, reached, ended⟩ := Machine.step_of_run_finished runs
          have taken_lt := Machine.lt_of_run_finished runs reached
          exact ⟨outcome, rfl, rfl, .inr ⟨initial, taken, last, rfl, taken_lt, reached, ended⟩⟩

/-- The step with which an execution ends gives its result, however many steps are left. -/
theorem result_eq_of_execute {steps : Nat} {result : Except ExecutionError Value}
    (executed : (engine.execute steps entry arguments fresh).1 = some result)
    (reaches : engine.Reaches entry arguments fresh machine)
    (ended : machine.step engine.host = .finished outcome) : outcome.result = result := by
  obtain ⟨initial, taken, starts, runs⟩ := reaches
  have ends := (Machine.run_succ runs).trans ended
  cases execute_eq_some_iff.mp executed with
  | notStarted starts' => cases starts.symm.trans starts'
  | ended starts' runs' =>
      cases starts.symm.trans starts'
      have long := Machine.run_add_of_finished ends steps
      have long' := Machine.run_add_of_finished runs' (taken + 1)
      rw [Nat.add_comm, long'] at long
      cases long
      rfl

end Engine

end ScriptMachine
