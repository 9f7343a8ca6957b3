import ScriptMachine.Engine
import ScriptMachine.Proofs.Machine.Runs
import ScriptMachine.Proofs.Scope.Resolution

/-!
# Stability of scopes

What stays of a scope while its program runs: the labels, and of the variables everything
but the cells that they are bound to.  A variable can be added, but only without a name and
hidden, so that names resolve to the same indices from beginning to end.

Calls of labels share the scope.  Calls of library and host functions do not touch it: among
the activations of a machine, the one above the same callers keeps its scope in every step
except when it makes a pointer itself.
-/

namespace ScriptMachine

namespace Scope

/-- Labels and named variables are the same, and variables that were added are anonymous. -/
structure StableTo (before after : Scope) : Prop where
  labels_eq : after.labels = before.labels
  kept : ∀ index binding, before.vars.get? index = some binding →
    ∃ target, after.vars.get? index = some { binding with target := target }
  added : ∀ index binding, before.vars.get? index = none →
    after.vars.get? index = some binding → ∃ target, binding = .anonymous target

namespace StableTo

variable {before middle after : Scope}

theorem refl (scope : Scope) : scope.StableTo scope where
  labels_eq := rfl
  kept _ binding bound := ⟨binding.target, bound⟩
  added _ _ unbound bound := by
    rw [unbound] at bound
    cases bound

theorem trans (first : before.StableTo middle) (second : middle.StableTo after) :
    before.StableTo after where
  labels_eq := second.labels_eq.trans first.labels_eq
  kept index binding bound := by
    obtain ⟨target, between⟩ := first.kept index binding bound
    exact second.kept index ⟨binding.name, binding.visibility, target⟩ between
  added index binding unbound bound := by
    cases between : middle.vars.get? index with
    | none => exact second.added index binding between bound
    | some earlier =>
        obtain ⟨_, rfl⟩ := first.added index earlier unbound between
        obtain ⟨target, later⟩ := second.kept index _ between
        rw [later] at bound
        exact ⟨target, (Option.some.inj bound).symm⟩

/-- A variable exports a name in the one scope as in the other. -/
theorem exports_iff (stable : before.StableTo after) (name : String) (index : Nat) :
    after.vars.Exports name index ↔ before.vars.Exports name index := by
  constructor
  · rintro ⟨binding, bound, exported, named⟩
    cases earlier : before.vars.get? index with
    | none =>
        obtain ⟨_, rfl⟩ := stable.added index binding earlier bound
        contradiction
    | some binding =>
        obtain ⟨_, later⟩ := stable.kept index binding earlier
        obtain rfl := Option.some.inj (later.symm.trans bound)
        exact ⟨binding, earlier, exported, named⟩
  · rintro ⟨binding, bound, exported, named⟩
    obtain ⟨_, later⟩ := stable.kept index binding bound
    exact ⟨_, later, exported, named⟩

theorem resolve?_vars (stable : before.StableTo after) (name : String) :
    after.vars.resolve? name = before.vars.resolve? name :=
  Table.resolve?_congr (stable.exports_iff name)

theorem resolve?_labels (stable : before.StableTo after) (name : String) :
    after.labels.resolve? name = before.labels.resolve? name := by
  rw [stable.labels_eq]

end StableTo

/-- Binding a variable elsewhere keeps its name. -/
theorem stableTo_point (scope : Scope) (index : UInt64) (target : Option Address) :
    scope.StableTo (scope.point index target) where
  labels_eq := rfl
  kept other binding bound := by
    unfold point
    by_cases same : other = index.toNat
    · subst same
      simp [bound]
    · rw [Table.get?_set_ne same]
      exact ⟨binding.target, bound⟩
  added other binding unbound bound := by
    unfold point at bound
    by_cases same : other = index.toNat
    · subst same
      simp only [unbound, Table.get?_set_self, Option.some.injEq] at bound
      exact ⟨target, bound.symm⟩
    · rw [Table.get?_set_ne same, unbound] at bound
      cases bound

end Scope

theorem Effect.stableTo_apply (effect : Effect) (context : Context) :
    context.scope.StableTo (effect.apply context).scope := by
  cases effect with
  | pointer index target => exact context.scope.stableTo_point index target
  | none | register | cell | slot => exact Scope.StableTo.refl context.scope

namespace Machine

variable {host : Host} {start machine next : Machine} {below : List Activation}
  {activation : Activation}

theorem Performs.stableTo {flow : Flow} {context : Context}
    (performs : machine.Performs host flow context) :
    machine.current.scope.StableTo context.scope := by
  cases performs with
  | @instruction _ middle effect _ current growth does =>
      have stable := effect.stableTo_apply middle
      rw [growth.scope_eq] at stable
      exact stable
  | fallOff current => exact Scope.StableTo.refl _

/-! ## One step -/

/-- The activation above some callers after a step, which has another scope only if it is the
current one and makes a pointer. -/
structure KeepsScope (machine next : Machine) (below : List Activation)
    (activation after : Activation) : Prop where
  above : after :: below <:+ next.activations
  stable : activation.scope.StableTo after.scope
  changed : after.scope ≠ activation.scope → machine.callers = below ∧
    ∃ instruction, machine.current.instruction? = some instruction ∧
      instruction.opcode = .makePointer

theorem KeepsScope.of_scope_eq {after : Activation} (above : after :: below <:+ next.activations)
    (scope_eq : after.scope = activation.scope) :
    machine.KeepsScope next below activation after where
  above := above
  stable := by
    rw [scope_eq]
    exact .refl activation.scope
  changed changed := absurd scope_eq changed

/-- The activation above some callers stays there as long as so many wait. -/
theorem keepsScope_of_passes (suffix : activation :: below <:+ machine.activations)
    (passes : machine.Passes host next) (above : below.length ≤ next.callers.length) :
    ∃ after, machine.KeepsScope next below activation after := by
  rcases callers_of_passes passes with
    ⟨callers_eq, flow, context, performs, scope_eq⟩ | callers_eq | ⟨_, caller, callers_eq, scope_eq⟩
  · rcases List.suffix_cons_iff.mp suffix with same | waits
    · obtain ⟨rfl, rfl⟩ := List.cons.inj same
      apply Exists.intro next.current
      constructor
      · rw [← callers_eq]
        exact List.suffix_rfl
      · rw [scope_eq]
        exact performs.stableTo
      · intro changed
        rw [scope_eq] at changed
        exact ⟨rfl, performs.makePointer_of_scope_ne changed⟩
    · rw [← callers_eq] at waits
      exact ⟨activation, .of_scope_eq (waits.trans (List.suffix_cons _ _)) rfl⟩
  · rw [← callers_eq] at suffix
    exact ⟨activation, .of_scope_eq (suffix.trans (List.suffix_cons _ _)) rfl⟩
  · rcases List.suffix_cons_iff.mp suffix with same | waits
    · have length_eq := congrArg List.length same
      rw [callers_eq] at length_eq
      simp only [List.length_cons] at length_eq
      omega
    · rw [callers_eq] at waits
      rcases List.suffix_cons_iff.mp waits with same | waits
      · obtain ⟨rfl, rfl⟩ := List.cons.inj same
        exact ⟨next.current, .of_scope_eq List.suffix_rfl scope_eq⟩
      · exact ⟨activation, .of_scope_eq (waits.trans (List.suffix_cons _ _)) rfl⟩

/-- When fewer activations wait than those below, the last of them goes on in the scope that
it had. -/
theorem returns_of_passes (suffix : activation :: below <:+ machine.activations)
    (passes : machine.Passes host next) (returned : next.callers.length < below.length) :
    ∃ caller, below = caller :: next.callers ∧ next.current.scope = caller.scope := by
  have length_le := suffix.length_le
  simp only [activations, List.length_cons] at length_le
  rcases callers_of_passes passes with
    ⟨callers_eq, _⟩ | callers_eq | ⟨_, caller, callers_eq, scope_eq⟩
  · rw [callers_eq] at returned
    omega
  · rw [callers_eq] at returned
    simp only [activations, List.length_cons] at returned
    omega
  · rcases List.suffix_cons_iff.mp suffix with same | waits
    · obtain ⟨rfl, rfl⟩ := List.cons.inj same
      exact ⟨caller, callers_eq, scope_eq⟩
    · have length_le := waits.length_le
      rw [callers_eq] at length_le
      simp only [List.length_cons] at length_le
      omega

/-! ## Whole runs -/

/-- The scope of a program is stable, whatever it and the programs above it do. -/
theorem stableTo_of_runsAbove (runs : start.RunsAbove host start.callers.length machine) :
    ∃ activation, activation :: start.callers <:+ machine.activations ∧
      start.current.scope.StableTo activation.scope := by
  induction runs with
  | start => exact ⟨start.current, List.suffix_rfl, .refl _⟩
  | step runs stepped above ih =>
      obtain ⟨activation, suffix, stable⟩ := ih
      obtain ⟨after, keeps⟩ := keepsScope_of_passes suffix (passes_of_step stepped) above
      exact ⟨after, keeps.above, stable.trans keeps.stable⟩

/-- What waits is the same as long as it waits. -/
theorem callers_of_runsAbove (runs : start.RunsAbove host start.callers.length machine) :
    start.callers <:+ machine.callers := by
  obtain ⟨activation, suffix, _⟩ := stableTo_of_runsAbove runs
  rcases List.suffix_cons_iff.mp suffix with same | waits
  · exact ⟨[], (List.cons.inj same).2⟩
  · exact (List.suffix_cons activation start.callers).trans waits

/-- A call of a host function leaves the scope of the caller alone, and during a call of a
library function and when it returns the caller is as it was. -/
theorem scope_of_call {instruction : Instruction}
    (current : start.current.instruction? = some instruction)
    (opcode_eq : instruction.opcode = .call) (stepped : start.step host = .running next) :
    (next.callers = start.callers ∧ next.current.scope = start.current.scope) ∨
    (next.callers = start.activations ∧
      ∀ inside, next.RunsAbove host next.callers.length inside →
        start.activations <:+ inside.callers ∧
        ∀ after, inside.step host = .running after →
          after.callers.length < next.callers.length →
          after.callers = start.callers ∧ after.current.scope = start.current.scope) := by
  rcases callers_of_passes (passes_of_step stepped) with
    ⟨callers_eq, flow, context, performs, scope_eq⟩ | callers_eq | ⟨ends, _⟩
  · apply Or.inl
    constructor
    · exact callers_eq
    · rw [scope_eq]
      apply Decidable.byContradiction
      intro changed
      obtain ⟨other, found, other_eq⟩ := performs.makePointer_of_scope_ne changed
      rw [current] at found
      obtain rfl := Option.some.inj found
      rw [opcode_eq] at other_eq
      contradiction
  · apply Or.inr
    constructor
    · exact callers_eq
    · intro inside runs
      constructor
      · rw [← callers_eq]
        exact callers_of_runsAbove runs
      · intro after ended returned
        obtain ⟨_, suffix, _⟩ := stableTo_of_runsAbove runs
        obtain ⟨caller, below_eq, scope_eq⟩ :=
          returns_of_passes suffix (passes_of_step ended) returned
        rw [callers_eq] at below_eq
        obtain ⟨rfl, waiting_eq⟩ := List.cons.inj below_eq
        exact ⟨waiting_eq.symm, scope_eq⟩
  · rw [ends instruction current] at opcode_eq
    contradiction

/-- When an execution ends, by a fault or not, the scope that remains is that of the first
activation. -/
theorem scope_of_closes_first {outcome : Outcome}
    (suffix : [activation] <:+ machine.activations) (closes : machine.Closes host outcome) :
    outcome.scope = activation.scope := by
  have last_eq : machine.activations.getLast (List.cons_ne_nil _ _) = activation := by
    obtain ⟨inner, activations_eq⟩ := suffix
    simp [← activations_eq]
  rw [scope_of_closes closes, rootScope_eq_getLast, last_eq]

/-- From any machine, as long as its current program or one that it has called runs: the
activation of the program has a scope with the same labels and names, and resolves every name
as before; a step changes that scope only by making a pointer in this very activation; a call of a
library or host function leaves it exactly as it was, whatever runs during the call; and if the
program is the first one, it is the scope that remains when the execution ends, also when a call
faults. -/
theorem scope_stability (runs : start.RunsAbove host start.callers.length machine) :
    ∃ activation, activation :: start.callers <:+ machine.activations ∧
      start.current.scope.StableTo activation.scope ∧
      (∀ name,
        activation.scope.vars.resolve? name = start.current.scope.vars.resolve? name ∧
        activation.scope.labels.resolve? name = start.current.scope.labels.resolve? name) ∧
      (∀ next, machine.step host = .running next →
        start.callers.length ≤ next.callers.length →
          ∃ after, machine.KeepsScope next start.callers activation after) ∧
      (∀ instruction entered, machine.callers = start.callers →
        machine.current.instruction? = some instruction → instruction.opcode = .call →
        machine.step host = .running entered →
          (entered.callers = start.callers ∧ entered.current.scope = activation.scope) ∨
          (entered.callers = activation :: start.callers ∧
            ∀ inside, entered.RunsAbove host entered.callers.length inside →
              activation :: start.callers <:+ inside.callers ∧
              ∀ after, inside.step host = .running after →
                after.callers.length < entered.callers.length →
                after.callers = start.callers ∧ after.current.scope = activation.scope)) ∧
      (∀ outcome, start.callers = [] → machine.step host = .finished outcome →
        outcome.scope = activation.scope ∧
        start.current.scope.StableTo outcome.scope ∧
        ∀ name,
          outcome.scope.vars.resolve? name = start.current.scope.vars.resolve? name ∧
          outcome.scope.labels.resolve? name = start.current.scope.labels.resolve? name) := by
  obtain ⟨activation, suffix, stable⟩ := stableTo_of_runsAbove runs
  refine ⟨activation, suffix, stable, ?_, ?_, ?_, ?_⟩
  · intro name
    exact ⟨stable.resolve?_vars name, stable.resolve?_labels name⟩
  · intro next stepped above
    exact keepsScope_of_passes suffix (passes_of_step stepped) above
  · intro instruction entered callers_eq current opcode_eq stepped
    have activation_eq : activation = machine.current := by
      rcases List.suffix_cons_iff.mp suffix with same | waits
      · exact (List.cons.inj same).1
      · have length_le := waits.length_le
        rw [callers_eq, List.length_cons] at length_le
        omega
    have call := scope_of_call current opcode_eq stepped
    rw [activations, callers_eq] at call
    rw [activation_eq]
    exact call
  · intro outcome first ended
    rw [first] at suffix
    have scope_eq := scope_of_closes_first suffix (closes_of_step ended)
    refine ⟨scope_eq, ?_, ?_⟩
    · rw [scope_eq]
      exact stable
    · intro name
      rw [scope_eq]
      exact ⟨stable.resolve?_vars name, stable.resolve?_labels name⟩

/-- A program that binds its exported variable to a new cell, and then a variable that it does
not declare. -/
def pointingProgram : Program where
  imports := []
  constants := []
  vars := [⟨0, "result", .exported⟩]
  functions := [⟨0, "main", .exported⟩]
  instructions := #[
    .make .label [.label 0],
    .make .makePointer [.variable 0],
    .make .makePointer [.variable 1]]

theorem scope_stability_pointingProgram :
    ∃ initial machine, (Engine.ofProgram pointingProgram).start Engine.mainEntry none true =
        .running initial ∧
      initial.run Host.empty 3 = .running machine ∧
      ∃ activation, activation :: initial.callers <:+ machine.activations ∧
        ∀ name, activation.scope.vars.resolve? name = initial.current.scope.vars.resolve? name := by
  have runs : ∃ initial machine,
      (Engine.ofProgram pointingProgram).start Engine.mainEntry none true = .running initial ∧
        initial.run Host.empty 3 = .running machine ∧
          initial.RunsAbove Host.empty initial.callers.length machine := by
    exact ⟨_, _, rfl, rfl, .step (.step (.step .start rfl (Nat.le_refl 0)) rfl (Nat.le_refl 0))
      rfl (Nat.le_refl 0)⟩
  obtain ⟨initial, machine, starts, runs, above⟩ := runs
  obtain ⟨activation, suffix, _, resolves, _⟩ := scope_stability above
  exact ⟨initial, machine, starts, runs, activation, suffix, fun name => (resolves name).1⟩

end Machine

end ScriptMachine
