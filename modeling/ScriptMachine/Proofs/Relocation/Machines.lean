import Mathlib.Data.List.Forall2
import ScriptMachine.Proofs.Control.Termination
import ScriptMachine.Proofs.Relocation.Link

/-!
# Corresponding machines

Two machines that are at the same place in the same programs, with corresponding scopes and shared
states, make the same steps: both go on, and correspond again, or both end by the same error or with
corresponding values.  One correspondence serves all steps, also those into libraries and back.
-/

namespace ScriptMachine

/-! ## Machines -/

/-- The same place in the same program, with corresponding scopes. -/
structure Activation.Corresponds (correspondence : Correspondence) (left right : Activation) :
    Prop where
  program_eq : left.program = right.program
  scope : left.scope.Corresponds correspondence right.scope
  depth_eq : left.depth = right.depth
  offset_eq : left.offset = right.offset
  returns_eq : left.returns = right.returns

/-- All programs in execution are at the same places. -/
structure Machine.Corresponds (correspondence : Correspondence) (left right : Machine) :
    Prop where
  shared : left.shared.Corresponds correspondence right.shared
  current : left.current.Corresponds correspondence right.current
  callers : List.Forall₂ (Activation.Corresponds correspondence) left.callers right.callers

/-- The same error, or corresponding values. -/
inductive Outcome.Corresponds (correspondence : Correspondence) : Outcome → Outcome → Prop where
  | error (error : ExecutionError) {shared other : SharedState} {scope otherScope : Scope} :
      Corresponds correspondence ⟨.error error, shared, scope⟩ ⟨.error error, other, otherScope⟩
  | value {left right : Value} (values : left.Corresponds correspondence right)
      {shared other : SharedState} {scope otherScope : Scope} :
      Corresponds correspondence ⟨.ok left, shared, scope⟩ ⟨.ok right, other, otherScope⟩

/-- Two machines that both go on, or have both ended. -/
inductive Status.Corresponds (correspondence : Correspondence) : Status → Status → Prop where
  | running {left right : Machine} (machines : left.Corresponds correspondence right) :
      Corresponds correspondence (.running left) (.running right)
  | finished {left right : Outcome} (outcomes : left.Corresponds correspondence right) :
      Corresponds correspondence (.finished left) (.finished right)

variable {correspondence : Correspondence}

namespace Activation.Corresponds

variable {left right : Activation}

theorem instruction?_eq (corresponds : left.Corresponds correspondence right) :
    left.instruction? = right.instruction? := by
  rw [instruction?, instruction?, corresponds.program_eq, corresponds.offset_eq]

theorem instruction_eq (corresponds : left.Corresponds correspondence right) :
    left.instruction = right.instruction := by
  rw [instruction, instruction, corresponds.instruction?_eq]

theorem location_eq (corresponds : left.Corresponds correspondence right) :
    left.location = right.location := by
  rw [location, location, corresponds.offset_eq, corresponds.instruction_eq]

/-- Control moves to the same place. -/
theorem move (corresponds : left.Corresponds correspondence right) {depth otherDepth offset : Nat}
    {returns otherReturns : List Nat} (depth_eq : depth = otherDepth)
    (returns_eq : returns = otherReturns) :
    Corresponds correspondence ⟨left.program, left.scope, depth, offset, returns⟩
      ⟨right.program, right.scope, otherDepth, offset, otherReturns⟩ :=
  ⟨corresponds.program_eq, corresponds.scope, depth_eq, rfl, returns_eq⟩

end Activation.Corresponds

/-- An error goes through the same calls. -/
theorem ExecutionError.wrap_eq {callers otherCallers : List Activation}
    (corresponds : List.Forall₂ (Activation.Corresponds correspondence) callers otherCallers)
    (error : ExecutionError) : error.wrap callers = error.wrap otherCallers := by
  induction corresponds generalizing error with
  | nil => rfl
  | cons first _ ih =>
      unfold wrap at ih ⊢
      rw [List.foldl_cons, List.foldl_cons, first.location_eq, ih]

/-- The next instruction calls a function that the host has. -/
def Machine.CallsNative (host : Host) (machine : Machine) : Prop :=
  ∃ instruction, machine.current.instruction? = some instruction ∧
    instruction.CallsNative host machine.context

/-- Machines that the same calls wait for are ended alike by one error. -/
theorem Machine.abort_corresponds {left right : Machine}
    (callers : List.Forall₂ (Activation.Corresponds correspondence) left.callers right.callers)
    (error : ExecutionError) :
    Status.Corresponds correspondence (left.abort error) (right.abort error) := by
  have error_eq := error.wrap_eq callers
  unfold ExecutionError.wrap at error_eq
  unfold abort
  rw [error_eq]
  exact .finished (.error _)

namespace Machine.Corresponds

variable {left right : Machine} {after otherAfter : Context} {value otherValue : Value}

theorem context (corresponds : left.Corresponds correspondence right) :
    left.context.Corresponds correspondence right.context :=
  ⟨corresponds.shared, corresponds.current.scope⟩

theorem withContext (corresponds : left.Corresponds correspondence right)
    (contexts : after.Corresponds correspondence otherAfter) :
    (left.withContext after).Corresponds correspondence (right.withContext otherAfter) where
  shared := contexts.shared
  current := ⟨corresponds.current.program_eq, contexts.scope, corresponds.current.depth_eq,
    corresponds.current.offset_eq, corresponds.current.returns_eq⟩
  callers := corresponds.callers

theorem goTo (corresponds : left.Corresponds correspondence right) (offset : Nat) :
    (left.goTo offset).Corresponds correspondence (right.goTo offset) where
  shared := corresponds.shared
  current := corresponds.current.move corresponds.current.depth_eq corresponds.current.returns_eq
  callers := corresponds.callers

theorem goOn (corresponds : left.Corresponds correspondence right) :
    (left.goTo (left.current.offset + 1)).Corresponds correspondence
      (right.goTo (right.current.offset + 1)) := by
  rw [corresponds.current.offset_eq]
  exact corresponds.goTo _

/-- Whatever an instruction that faults has done, the fault is at the same location. -/
theorem fault (corresponds : left.Corresponds correspondence right) (cause : Fault)
    (after otherAfter : Context) :
    Status.Corresponds correspondence ((left.withContext after).fault cause)
      ((right.withContext otherAfter).fault cause) := by
  have location_eq : (left.withContext after).current.location =
      (right.withContext otherAfter).current.location := corresponds.current.location_eq
  unfold Machine.fault
  rw [location_eq]
  apply abort_corresponds
  exact corresponds.callers

/-! ### Calls -/

theorem resume (corresponds : left.Corresponds correspondence right)
    (oblivious : left.current.program.Oblivious)
    (values : value.Corresponds correspondence otherValue) :
    Status.Corresponds correspondence (left.resume value) (right.resume otherValue) := by
  have stores := Operand.alike_store ((Activation.oblivious_instruction oblivious).operand 0) values
  unfold Machine.resume
  rw [← corresponds.current.instruction_eq]
  rcases (stores _ _ corresponds.context).ends with
    ⟨_, _, after, otherAfter, run, otherRun, -, contexts⟩ |
    ⟨cause, after, otherAfter, run, otherRun⟩
  · rw [run, otherRun]
    exact .running (corresponds.withContext contexts).goOn
  · rw [run, otherRun]
    exact corresponds.fault cause after otherAfter

theorem giveBack (corresponds : left.Corresponds correspondence right)
    (oblivious : left.current.program.Oblivious)
    (callersOblivious : ∀ caller ∈ left.callers, caller.program.Oblivious)
    (values : value.Corresponds correspondence otherValue) :
    Status.Corresponds correspondence (left.giveBack value) (right.giveBack otherValue) := by
  obtain ⟨shared, current, callers⟩ := corresponds
  unfold Machine.giveBack
  rw [current.returns_eq, current.depth_eq]
  cases right.current.returns with
  | cons offset returns => exact resume ⟨shared, current.move rfl rfl, callers⟩ oblivious values
  | nil =>
      generalize left.callers = waiting at callers callersOblivious
      generalize right.callers = otherWaiting at callers
      cases callers with
      | nil => exact .finished (.value values)
      | cons caller rest =>
          -- The value goes where the caller's instruction stores it.
          exact resume ⟨shared, caller, rest⟩ (callersOblivious _ List.mem_cons_self) values

theorem enterLabel (corresponds : left.Corresponds correspondence right) (offset : Nat) :
    (left.enterLabel offset).Corresponds correspondence (right.enterLabel offset) where
  shared := corresponds.shared
  current := by
    apply corresponds.current.move
    · rw [corresponds.current.depth_eq]
    · rw [corresponds.current.offset_eq, corresponds.current.returns_eq]
  callers := corresponds.callers

theorem enterLibrary (corresponds : left.Corresponds correspondence right) (host : Host)
    (program : Program) (label : UInt64) :
    Status.Corresponds correspondence (left.enterLibrary host program label)
      (right.enterLibrary host program label) := by
  have links := program.linkedAlike_of_corresponds host corresponds.shared
  unfold Machine.enterLibrary
  rw [corresponds.current.location_eq, corresponds.current.depth_eq]
  revert links
  generalize program.link host none false left.shared = link
  generalize program.link host none false right.shared = otherLink
  intro links
  cases links with
  | refused error context other =>
      apply abort_corresponds
      exact corresponds.callers
  | linked linked =>
      simp only [linked.scope.entryOffset_eq]
      split
      · apply abort_corresponds
        exact corresponds.callers
      · exact .running
          ⟨linked.shared, ⟨rfl, linked.scope, rfl, rfl, rfl⟩,
            .cons corresponds.current corresponds.callers⟩

/-! ### Steps -/

/-- The next instruction asks for the same, or is refused by the same fault. -/
theorem next (corresponds : left.Corresponds correspondence right) (host : Host)
    (oblivious : left.current.program.Oblivious) (quiet : ¬ left.CallsNative host) :
    (∃ flow otherFlow after otherAfter, left.next host = (.ok flow, after) ∧
      right.next host = (.ok otherFlow, otherAfter) ∧ flow.Corresponds correspondence otherFlow ∧
        after.Corresponds correspondence otherAfter) ∨
    ∃ cause after otherAfter, left.next host = (.error cause, after) ∧
      right.next host = (.error cause, otherAfter) := by
  unfold Machine.next
  rw [← corresponds.current.instruction?_eq, ← corresponds.current.depth_eq]
  cases current : left.current.instruction? with
  | none =>
      exact .inl ⟨_, _, _, _, rfl, rfl, .ret (Value.corresponds_number _), corresponds.context⟩
  | some instruction =>
      have performs := Instruction.pairs_perform host left.current.depth
        (oblivious instruction (Array.mem_of_getElem? current)) corresponds.context
        fun calls => quiet ⟨instruction, current, calls⟩
      exact performs.ends

/-- Machines that correspond make the same step, unless it is a call of the host. -/
theorem step (corresponds : left.Corresponds correspondence right) {host : Host}
    (programs : left.Programs Program.Oblivious) (quiet : ¬ left.CallsNative host) :
    Status.Corresponds correspondence (left.step host) (right.step host) := by
  unfold Machine.step
  rcases corresponds.next host programs.current quiet with
    ⟨flow, otherFlow, after, otherAfter, next, otherNext, flows, contexts⟩ |
    ⟨cause, after, otherAfter, next, otherNext⟩
  · rw [next, otherNext]
    have afters := corresponds.withContext contexts
    cases flows with
    | next => exact .running afters.goOn
    | jump offset => exact .running (afters.goTo offset)
    | callLabel offset => exact .running (afters.enterLabel offset)
    | callLibrary program label => exact afters.enterLibrary host program label
    | ret values => exact afters.giveBack programs.current programs.callers values
  · rw [next, otherNext]
    exact corresponds.fault cause after otherAfter

end Machine.Corresponds

end ScriptMachine
