import ScriptMachine.Proofs.Machine.Transition

/-!
# Runs of machines

What a step leaves alone, whatever it performs: the labels of all programs, the scopes and
offsets of the activations that wait, and, unless a library is called, what is registered
and loaded.  Only an instruction that makes a pointer changes a scope.

A property that every step keeps holds along every run.  `Machine.RunsAbove` is a part of
a run in which at least a number of activations wait, as it is during a call of a library
function from the caller's point of view.
-/

namespace ScriptMachine

/-! ## What effects leave alone -/

namespace Effect

variable (effect : Effect) (context : Context)

@[simp] theorem labels_apply : (effect.apply context).scope.labels = context.scope.labels := by
  cases effect <;> rfl

@[simp] theorem registry_apply :
    (effect.apply context).shared.registry = context.shared.registry := by
  cases effect <;> rfl

@[simp] theorem libraries_apply :
    (effect.apply context).shared.libraries = context.shared.libraries := by
  cases effect <;> rfl

variable {effect}

/-- Storing a value leaves the scope alone. -/
theorem scope_apply_of_receives {scope : Scope} {operand : Operand} {value : Value}
    (receives : operand.Receives scope value effect) :
    (effect.apply context).scope = context.scope := by
  cases receives <;> rfl

end Effect

namespace Instruction.Does

variable {instruction : Instruction} {host : Host} {depth : Nat} {context : Context} {flow : Flow}
  {effect : Effect}

/-- What does not go on with the next instruction has no effect. -/
theorem effect_eq_none (does : instruction.Does host depth context flow effect)
    (flow_ne : flow ≠ .next) : effect = .none := by
  cases does <;> first | rfl | contradiction

/-- Only making a pointer changes a scope. -/
theorem scope_apply (does : instruction.Does host depth context flow effect)
    (opcode_ne : instruction.opcode ≠ .makePointer) (middle : Context) :
    (effect.apply middle).scope = middle.scope := by
  cases does with
  | store stores gives receives => exact Effect.scope_apply_of_receives middle receives
  | newPointer opcode_eq => contradiction
  | pointer opcode_eq => contradiction
  | _ => rfl

end Instruction.Does

namespace Machine

/-! ## What steps leave alone -/

/-- The current activation and those that wait, from the innermost. -/
def activations (machine : Machine) : List Activation := machine.current :: machine.callers

/-- The current program is at a return, or has no more instructions. -/
def Ends (machine : Machine) : Prop :=
  ∀ instruction, machine.current.instruction? = some instruction → instruction.opcode = .ret

variable {host : Host} {machine next : Machine} {flow : Flow} {context : Context}

namespace Performs

/-- What does not return is done by an instruction. -/
theorem exists_does (performs : machine.Performs host flow context)
    (not_ret : ∀ value, flow ≠ .ret value) :
    ∃ instruction effect, machine.current.instruction? = some instruction ∧
      instruction.Does host machine.current.depth machine.context flow effect := by
  cases performs with
  | instruction current growth does => exact ⟨_, _, current, does⟩
  | fallOff current => exact absurd rfl (not_ret _)

theorem ends {value : Value} (performs : machine.Performs host (.ret value) context) :
    machine.Ends := by
  intro instruction found
  cases performs with
  | instruction current growth does =>
      rw [current] at found
      obtain rfl := Option.some.inj found
      cases does with
      | call opcode_eq calls => cases calls
      | ret opcode_eq => exact opcode_eq
  | fallOff current =>
      rw [current] at found
      cases found

theorem labels_eq (performs : machine.Performs host flow context) :
    context.scope.labels = machine.current.scope.labels := by
  cases performs with
  | instruction current growth does =>
      rw [Effect.labels_apply, growth.scope_eq]
      rfl
  | fallOff current => rfl

theorem registry_eq (performs : machine.Performs host flow context) :
    context.shared.registry = machine.shared.registry := by
  cases performs with
  | instruction current growth does =>
      rw [Effect.registry_apply, growth.registry_eq]
      rfl
  | fallOff current => rfl

theorem libraries_eq (performs : machine.Performs host flow context) :
    context.shared.libraries = machine.shared.libraries := by
  cases performs with
  | instruction current growth does =>
      rw [Effect.libraries_apply, growth.libraries_eq]
      rfl
  | fallOff current => rfl

/-- Jumps, calls and returns let the memory grow and do nothing else. -/
theorem growsTo (performs : machine.Performs host flow context) (flow_ne : flow ≠ .next) :
    machine.context.GrowsTo context := by
  cases performs with
  | instruction current growth does =>
      rw [does.effect_eq_none flow_ne]
      exact growth
  | fallOff current => exact .refl machine.context

theorem scope_eq (performs : machine.Performs host flow context) (flow_ne : flow ≠ .next) :
    context.scope = machine.current.scope :=
  (performs.growsTo flow_ne).scope_eq

/-- Only making a pointer changes a scope. -/
theorem makePointer_of_scope_ne (performs : machine.Performs host flow context)
    (changed : context.scope ≠ machine.current.scope) :
    ∃ instruction, machine.current.instruction? = some instruction ∧
      instruction.opcode = .makePointer := by
  cases performs with
  | @instruction instruction _ _ _ current growth does =>
      by_cases opcode_eq : instruction.opcode = .makePointer
      · exact ⟨instruction, current, opcode_eq⟩
      · rw [does.scope_apply opcode_eq, growth.scope_eq] at changed
        contradiction
  | fallOff current => contradiction

end Performs

namespace Resumes

variable {value : Value}

/-- A program goes on behind its call in the scope that it had. -/
theorem current_eq (resumes : machine.Resumes value next) :
    next.current = { machine.current with offset := machine.current.offset + 1 } := by
  cases resumes with
  | store growth receives =>
      have scope_eq := (Effect.scope_apply_of_receives _ receives).trans growth.scope_eq
      simp only [goTo, withContext, scope_eq]
      rfl

theorem callers_eq (resumes : machine.Resumes value next) : next.callers = machine.callers := by
  cases resumes
  rfl

theorem registry_eq (resumes : machine.Resumes value next) :
    next.shared.registry = machine.shared.registry := by
  cases resumes with
  | store growth receives => exact (Effect.registry_apply _ _).trans growth.registry_eq

theorem libraries_eq (resumes : machine.Resumes value next) :
    next.shared.libraries = machine.shared.libraries := by
  cases resumes with
  | store growth receives => exact (Effect.libraries_apply _ _).trans growth.libraries_eq

end Resumes

/-- A step stays in the current program, begins a library function above all activations, or
goes back to the one that waits, which has the scope that it had. -/
theorem callers_of_passes (passes : machine.Passes host next) :
    (next.callers = machine.callers ∧ ∃ flow context, machine.Performs host flow context ∧
      next.current.scope = context.scope) ∨
    next.callers = machine.activations ∨
    machine.Ends ∧ ∃ caller, machine.callers = caller :: next.callers ∧
      next.current.scope = caller.scope := by
  cases passes with
  | onward performs | jump performs | enterLabel performs =>
      exact .inl ⟨rfl, _, _, performs, rfl⟩
  | enterLibrary performs links entry =>
      have scope_eq := performs.scope_eq (by simp)
      apply Or.inr
      apply Or.inl
      simp only [activations, withContext, scope_eq]
  | invoke invokes invoked resumes =>
      have performs := performs_of_next invokes
      apply Or.inl
      constructor
      · exact resumes.callers_eq
      · exact ⟨_, _, performs, by rw [resumes.current_eq]; rfl⟩
  | leaveLabel performs returns_eq resumes =>
      apply Or.inl
      constructor
      · exact resumes.callers_eq
      · exact ⟨_, _, performs, by rw [resumes.current_eq]; rfl⟩
  | @leaveLibrary _ _ caller _ _ performs returns_eq callers_eq resumes =>
      have waiting_eq : machine.callers = caller :: next.callers := by
        rw [callers_eq, resumes.callers_eq]
      have current_eq := resumes.current_eq
      exact .inr (.inr ⟨performs.ends, caller, waiting_eq, by rw [current_eq]⟩)

/-- The scope of the first program is that of the activation below all others. -/
theorem rootScope_eq_getLast (machine : Machine) :
    machine.rootScope = (machine.activations.getLast (List.cons_ne_nil _ _)).scope := by
  unfold rootScope activations
  cases callers_eq : machine.callers with
  | nil => rfl
  | cons caller callers =>
      rw [List.getLast_cons (List.cons_ne_nil _ _), List.getLast?_eq_some_getLast
        (List.cons_ne_nil _ _), Option.getD_some]

theorem rootScope_congr {machine other : Machine}
    (scope_eq : other.current.scope = machine.current.scope)
    (callers_eq : other.callers = machine.callers) : other.rootScope = machine.rootScope := by
  unfold rootScope
  rw [callers_eq]
  cases machine.callers.getLast? with
  | none => exact scope_eq
  | some caller => rfl

/-- A step that ends the execution leaves the scope of the first program alone. -/
theorem scope_of_closes {outcome : Outcome} (closes : machine.Closes host outcome) :
    outcome.scope = machine.rootScope := by
  have discarded {before : Machine} {outcome : Outcome} (discards : before.Discards outcome) :
      outcome.scope = before.rootScope := by
    cases discards with
    | fault growth ofOperand => exact rootScope_congr growth.scope_eq rfl
  cases closes with
  | refuse current growth refuses => exact rootScope_congr growth.scope_eq rfl
  | notLinked performs | notEntered performs | finish performs =>
      exact rootScope_congr (performs.scope_eq (by simp)) rfl
  | invoke invokes =>
      have performs := performs_of_next invokes
      exact rootScope_congr (performs.scope_eq (by simp)) rfl
  | discardInvoked invokes invoked discards =>
      have performs := performs_of_next invokes
      rw [discarded discards]
      exact rootScope_congr (performs.scope_eq (by simp)) rfl
  | discardFromLabel performs returns_eq discards =>
      rw [discarded discards]
      exact rootScope_congr (performs.scope_eq (by simp)) rfl
  | discardFromLibrary performs returns_eq callers_eq discards =>
      rw [discarded discards, rootScope_eq_getLast, rootScope_eq_getLast]
      simp only [activations, callers_eq]
      exact congrArg Activation.scope (List.getLast_cons (List.cons_ne_nil _ _)).symm

/-! ## Runs -/

/-- What every step keeps holds along every run. -/
theorem holds_of_run {holds : Machine → Prop}
    (keeps : ∀ before after, holds before → before.step host = .running after → holds after)
    {steps : Nat} {start : Machine} (initial : holds start)
    (runs : start.run host steps = .running machine) : holds machine := by
  induction steps generalizing start with
  | zero =>
      cases runs
      exact initial
  | succ steps ih =>
      unfold run at runs
      split at runs
      · exact ih (keeps start _ initial ‹_›) runs
      · cases runs

/-- A run ends with a step of a machine that it has reached. -/
theorem step_of_run_finished {steps : Nat} {start : Machine} {outcome : Outcome}
    (runs : start.run host steps = .finished outcome) :
    ∃ taken last, start.run host taken = .running last ∧ last.step host = .finished outcome := by
  induction steps generalizing start with
  | zero => cases runs
  | succ steps ih =>
      unfold run at runs
      split at runs
      · rename_i middle stepped
        obtain ⟨taken, last, reached, ended⟩ := ih runs
        have runs : start.run host (taken + 1) = .running last := by
          rw [run, stepped]
          exact reached
        exact ⟨taken + 1, last, runs, ended⟩
      · rename_i stepped
        exact ⟨0, start, rfl, stepped.trans runs⟩

/-- Observing a run does not change it. -/
theorem snd_runObserved {α : Type} (observe : α → Machine → α) (steps : Nat) (seen : α)
    (machine : Machine) :
    (machine.runObserved host observe steps seen).2 = machine.run host steps := by
  induction steps generalizing seen machine with
  | zero => rfl
  | succ steps ih =>
      simp only [runObserved, run]
      cases machine.step host with
      | running next => exact ih _ next
      | finished outcome => rfl

/-- The machine is reached by steps after each of which at least a number of activations
wait. -/
inductive RunsAbove (host : Host) (waiting : Nat) (start : Machine) : Machine → Prop where
  | start : RunsAbove host waiting start start
  | step {machine next : Machine} (runs : RunsAbove host waiting start machine)
      (stepped : machine.step host = .running next) (above : waiting ≤ next.callers.length) :
      RunsAbove host waiting start next

end Machine

end ScriptMachine
