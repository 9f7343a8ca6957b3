import ScriptMachine.Proofs.Machine.Executions
import ScriptMachine.Proofs.Operands.Equivalence

/-!
# Normal operands

The operands of a program can be normalized, by leaving out the absent ones at their ends or by
any other change that is not seen in the first three, and its executions stay what they are.  The
two executions are compared step by step: at which depths and offsets instructions are performed,
and which functions of the host are called with which arguments.  In the end all is the same but
for the way in which errors show instructions.
-/

namespace ScriptMachine

/-! ## Runs -/

/-- A call of a host function, with the memory that it is given. -/
structure NativeCall where
  name : String
  id : NativeId
  arguments : List Value
  memory : Memory

/-- What an observer is told of a step before it is made. -/
structure PlaceEvent where
  depth : Nat
  offset : Nat
  call? : Option NativeCall

namespace Machine

/-- The call of a host function that is made by the next step, if it makes one. -/
def nativeCall? (machine : Machine) (host : Host) : Option NativeCall :=
  match machine.next host with
  | (.ok (.callNative name id _ arguments), context) =>
      some ⟨name, id, arguments, context.shared.memory⟩
  | _ => none

/-- The event of the next step, if there is an instruction to perform. -/
def placeEvent? (machine : Machine) (host : Host) : Option PlaceEvent :=
  machine.current.instruction?.map fun _ =>
    ⟨machine.current.depth, machine.current.offset, machine.nativeCall? host⟩

/-- The events of steps, in order. -/
def recordPlaces (host : Host) (events : List PlaceEvent) (machine : Machine) : List PlaceEvent :=
  events ++ (machine.placeEvent? host).toList

namespace Equivalent

variable {left right : Machine}

theorem placeEvent?_eq (equivalent : left.Equivalent right) (host : Host) :
    left.placeEvent? host = right.placeEvent? host := by
  have found := equivalent.current.instruction?
  unfold placeEvent? nativeCall?
  rw [equivalent.next_eq, equivalent.current.depth_eq, equivalent.current.offset_eq]
  generalize left.current.instruction? = current at found ⊢
  generalize right.current.instruction? = otherCurrent at found ⊢
  cases found with
  | none => rfl
  | some => rfl

/-- Equivalent machines run alike, and an observer does not tell them apart. -/
theorem runObserved (equivalent : left.Equivalent right) (host : Host) (steps : Nat)
    (events : List PlaceEvent) :
    (left.runObserved host (recordPlaces host) steps events).1 =
        (right.runObserved host (recordPlaces host) steps events).1 ∧
      Status.Equivalent (left.runObserved host (recordPlaces host) steps events).2
        (right.runObserved host (recordPlaces host) steps events).2 := by
  induction steps generalizing left right events with
  | zero => exact ⟨rfl, .running equivalent⟩
  | succ steps ih =>
      have stepped := equivalent.step host
      simp only [Machine.runObserved, recordPlaces, equivalent.placeEvent?_eq]
      generalize left.step host = status at stepped
      generalize right.step host = otherStatus at stepped
      cases stepped with
      | finished outcomes => exact ⟨rfl, .finished outcomes⟩
      | running machines => exact ih machines _

end Equivalent

end Machine

/-! ## Executions -/

namespace Engine

variable {engine : Engine} {program : Program}

theorem start_equivalent (equivalent : engine.program.Equivalent program) (entry : Entry)
    (arguments : Option (List Value)) (fresh : Bool) :
    Status.Equivalent (engine.start entry arguments fresh)
      ({ engine with program := program }.start entry arguments fresh) := by
  obtain ⟨result, context_eq⟩ := equivalent.link engine.host arguments fresh engine.shared
  unfold start
  rcases links : engine.program.link engine.host arguments fresh engine.shared with
    ⟨first, linked⟩
  rcases otherLinks : program.link engine.host arguments fresh engine.shared with
    ⟨second, otherLinked⟩
  rw [links, otherLinks] at result context_eq
  subst context_eq
  cases result with
  | error errors => exact .finished ⟨.error errors, rfl, rfl⟩
  | value =>
      simp only
      split
      · exact .finished ⟨.error (.fault _ .none), rfl, rfl⟩
      · exact .running ⟨rfl, ⟨equivalent, rfl, rfl, rfl, rfl⟩, .nil⟩

/-- Leaving out the absent operands at the ends of instructions gives an equivalent program.  An
engine executes equivalent programs alike, from any state: instructions are performed at the same
depths and offsets, the same functions of the host are called with the same arguments, and
the results, as far as the steps go, are the same value or the same fault at the same offsets and
lines.  The shared state and the scope that are left are the same. -/
theorem operand_normalization (engine : Engine) (steps : Nat) (entry : Entry)
    (arguments : Option (List Value)) (fresh : Bool) :
    engine.program.Equivalent engine.program.trim ∧
      ∀ program, engine.program.Equivalent program →
        let execution := engine.executeObserved (Machine.recordPlaces engine.host) [] steps entry
          arguments fresh
        let other := { engine with program := program }.executeObserved
          (Machine.recordPlaces engine.host) [] steps entry arguments fresh
        execution.1 = other.1 ∧
          Option.Rel ExecutionError.EquivalentResults execution.2.1 other.2.1 ∧
          execution.2.2.shared = other.2.2.shared ∧ execution.2.2.scope = other.2.2.scope := by
  refine ⟨engine.program.equivalent_trim, ?_⟩
  intro program equivalent
  have starts := start_equivalent equivalent entry arguments fresh
  simp only [executeObserved]
  generalize engine.start entry arguments fresh = status at starts
  generalize { engine with program := program }.start entry arguments fresh = otherStatus at starts
  cases starts with
  | finished outcomes =>
      exact ⟨rfl, .some outcomes.result, outcomes.shared_eq, outcomes.scope_eq⟩
  | @running initial otherInitial machines =>
      obtain ⟨events_eq, statuses⟩ := machines.runObserved engine.host steps []
      simp only
      generalize initial.runObserved engine.host (Machine.recordPlaces engine.host) steps [] = run
        at *
      generalize otherInitial.runObserved engine.host (Machine.recordPlaces engine.host) steps [] =
        otherRun at *
      obtain ⟨events, status⟩ := run
      obtain ⟨otherEvents, otherStatus⟩ := otherRun
      cases statuses with
      | running => exact ⟨events_eq, .none, rfl, rfl⟩
      | finished outcomes =>
          exact ⟨events_eq, .some outcomes.result, outcomes.shared_eq, outcomes.scope_eq⟩

/-- A program with absent operands at the ends of its instructions, the last of which faults. -/
def untrimmedProgram : Program where
  imports := []
  constants := []
  vars := [⟨0, "result", .exported⟩]
  functions := [⟨0, "main", .exported⟩]
  instructions := #[
    ⟨.label, [.label 0, .none, .none, .none], some 1⟩,
    ⟨.move, [.variable 0, .literal (.text "stored"), .none], some 2⟩,
    ⟨.jump, [.label 9, .none], some 3⟩]

/-- The fault of the program is shown with the operands that its instruction has. -/
theorem operand_normalization_untrimmedProgram :
    let execute (program : Program) :=
      (ofProgram program).executeObserved (Machine.recordPlaces Host.empty) [] 3 mainEntry none true
    (execute untrimmedProgram).1 = (execute untrimmedProgram.trim).1 ∧
      (execute untrimmedProgram).2.2.shared = (execute untrimmedProgram.trim).2.2.shared ∧
      Option.Rel ExecutionError.EquivalentResults (execute untrimmedProgram).2.1
        (execute untrimmedProgram.trim).2.1 ∧
      (execute untrimmedProgram).2.1 ≠ (execute untrimmedProgram.trim).2.1 := by
  obtain ⟨equivalent, executes⟩ :=
    operand_normalization (ofProgram untrimmedProgram) 3 mainEntry none true
  obtain ⟨events_eq, results, shared_eq, _⟩ := executes untrimmedProgram.trim equivalent
  exact ⟨events_eq, shared_eq, results, by decide +kernel⟩

end Engine

end ScriptMachine
