import ScriptMachine.Proofs.Machine.Executions
import ScriptMachine.Proofs.Relocation.Machines

/-!
# Repeatability

What has been executed before an execution does not show in it, as long as the execution resets
what engines keep, its programs have nothing to do with addresses, and no functions of the host are
called.  The memory is not reset: all that is added to it is added at other addresses.

Two executions are compared step by step.  An observer is told the same events in both, and both
end by the same step, if they end.
-/

namespace ScriptMachine

/-! ## Runs -/

/-- What an observer is told of an instruction before it is performed. -/
structure StepEvent where
  depth : Nat
  offset : Nat
  instruction : Instruction
  deriving DecidableEq

namespace Machine

/-- The event of the next step, if there is an instruction to perform. -/
def event? (machine : Machine) : Option StepEvent :=
  machine.current.instruction?.map fun instruction =>
    ⟨machine.current.depth, machine.current.offset, instruction⟩

/-- The events of steps, in order. -/
def record (events : List StepEvent) (machine : Machine) : List StepEvent :=
  events ++ machine.event?.toList

variable {host : Host} {correspondence : Correspondence} {left right : Machine}

theorem Corresponds.record_eq (corresponds : left.Corresponds correspondence right)
    (events : List StepEvent) : record events left = record events right := by
  unfold record event?
  rw [corresponds.current.instruction?_eq, corresponds.current.depth_eq,
    corresponds.current.offset_eq]

/-- Machines that correspond run alike, if no machine to which one of them comes has other programs
or calls the host. -/
theorem Corresponds.runObserved (corresponds : left.Corresponds correspondence right)
    (tame : ∀ taken machine, left.run host taken = .running machine →
      machine.Programs Program.Oblivious ∧ ¬ machine.CallsNative host)
    (steps : Nat) (events : List StepEvent) :
    (left.runObserved host record steps events).1 =
        (right.runObserved host record steps events).1 ∧
      Status.Corresponds correspondence (left.runObserved host record steps events).2
        (right.runObserved host record steps events).2 := by
  induction steps generalizing left right events with
  | zero => exact ⟨rfl, .running corresponds⟩
  | succ steps ih =>
      obtain ⟨programs, quiet⟩ := tame 0 left rfl
      have stepped := corresponds.step programs quiet
      simp only [Machine.runObserved, corresponds.record_eq]
      generalize left_eq : left.step host = status at stepped
      generalize right.step host = otherStatus at stepped
      cases stepped with
      | finished outcomes => exact ⟨rfl, .finished outcomes⟩
      | running machines =>
          -- What is reached from the next machine is reached with one step more.
          apply ih machines
          intro taken machine runs
          apply tame (taken + 1)
          rw [run, left_eq]
          exact runs

end Machine

/-! ## Executions -/

/-- Two results of executions that differ in nothing but in which lists or objects are returned.
There are none as long as the executions have not ended. -/
inductive SameResult : Option (Except ExecutionError Value) →
    Option (Except ExecutionError Value) → Prop where
  | unfinished : SameResult none none
  | error (error : ExecutionError) : SameResult (some (.error error)) (some (.error error))
  | value {left right : Value} (kind_eq : left.kind = right.kind)
      (same : left.kind ≠ .list → left.kind ≠ .object → left = right) :
      SameResult (some (.ok left)) (some (.ok right))

theorem Outcome.Corresponds.sameResult {correspondence : Correspondence} {left right : Outcome}
    (corresponds : left.Corresponds correspondence right) :
    SameResult (some left.result) (some right.result) := by
  cases corresponds with
  | error error => exact .error error
  | value values =>
      apply SameResult.value (values.observe_eq Value.indistinct_kind)
      intro not_list not_object
      cases values with
      | same => rfl
      | list => exact absurd rfl not_list
      | object => exact absurd rfl not_object

namespace Engine

variable {first second : Engine} {entry : Entry} {arguments : Option (List Value)}

/-- Executions of one program on one host start alike, whatever was executed before. -/
theorem start_corresponds (program_eq : first.program = second.program)
    (host_eq : first.host = second.host) (entry : Entry) (arguments : Option (List Value)) :
    ∃ correspondence, Status.Corresponds correspondence (first.start entry arguments true)
      (second.start entry arguments true) := by
  obtain ⟨correspondence, links⟩ :=
    second.program.exists_linkedAlike arguments first.shared second.shared second.host
  apply Exists.intro correspondence
  unfold start
  rw [program_eq, host_eq]
  revert links
  generalize second.program.link second.host arguments true first.shared = link
  generalize second.program.link second.host arguments true second.shared = otherLink
  intro links
  cases links with
  | refused error context other => exact .finished (.error error)
  | linked linked =>
      simp only [linked.scope.entryOffset_eq]
      split
      · exact .finished (.error _)
      · exact .running ⟨linked.shared, ⟨rfl, linked.scope, rfl, rfl, rfl⟩, .nil⟩

/-- Executions that reset the engine and have nothing to do with addresses do not depend on what was
executed before.  For engines with one program and one host, and with the same entry and arguments,
the same instructions are performed at the same depths and offsets, as far as the steps go; and the
results are the same error, at the same location, or values of one kind, which are the same unless
they are lists or objects. -/
theorem execution_repeatable (program_eq : first.program = second.program)
    (host_eq : first.host = second.host)
    (oblivious : ∀ machine, first.Reaches entry arguments true machine →
      machine.Programs Program.Oblivious)
    (quiet : ∀ machine, first.Reaches entry arguments true machine →
      ¬ machine.CallsNative first.host) (steps : Nat) :
    (first.executeObserved Machine.record [] steps entry arguments true).1 =
        (second.executeObserved Machine.record [] steps entry arguments true).1 ∧
      SameResult (first.executeObserved Machine.record [] steps entry arguments true).2.1
        (second.executeObserved Machine.record [] steps entry arguments true).2.1 := by
  obtain ⟨correspondence, starts⟩ := start_corresponds program_eq host_eq entry arguments
  unfold executeObserved
  rw [← host_eq]
  generalize start_eq : first.start entry arguments true = status at starts
  generalize second.start entry arguments true = otherStatus at starts
  cases starts with
  | finished outcomes => exact ⟨rfl, outcomes.sameResult⟩
  | @running initial otherInitial machines =>
      have tame : ∀ taken machine, initial.run first.host taken = .running machine →
          machine.Programs Program.Oblivious ∧ ¬ machine.CallsNative first.host := by
        intro taken machine runs
        have reaches : first.Reaches entry arguments true machine :=
          ⟨initial, taken, start_eq, runs⟩
        exact ⟨oblivious machine reaches, quiet machine reaches⟩
      obtain ⟨events_eq, statuses⟩ := machines.runObserved tame steps []
      simp only
      generalize initial.runObserved first.host Machine.record steps [] = run at *
      generalize otherInitial.runObserved first.host Machine.record steps [] = otherRun at *
      obtain ⟨events, status⟩ := run
      obtain ⟨otherEvents, otherStatus⟩ := otherRun
      cases statuses with
      | running => exact ⟨events_eq, .unfinished⟩
      | finished outcomes => exact ⟨events_eq, outcomes.sameResult⟩

/-- A program that compares two lists, one of which a label call makes, and returns that one. -/
def comparingProgram : Program where
  imports := []
  constants := []
  vars := [⟨0, "own", .hidden⟩, ⟨1, "made", .hidden⟩, ⟨2, "same", .hidden⟩]
  functions := [⟨0, "main", .exported⟩]
  instructions := #[
    .make .label [.label 0],
    .make .newList [.variable 0],
    .make .call [.variable 1, .label 1],
    .make .equal [.variable 2, .variable 0, .variable 1],
    .make .ret [.variable 1],
    .make .label [.label 1],
    .make .newList [.variable 1],
    .make .ret [.variable 1]]

/-- An engine for the program that has a list in its memory. -/
def usedEngine : Engine :=
  { ofProgram comparingProgram with shared.memory := (Memory.empty.newListOf [.none, .none]).2 }

theorem execution_repeatable_usedEngine :
    let execute (engine : Engine) :=
      engine.executeObserved Machine.record [] 20 mainEntry (some [.none]) true
    (execute (ofProgram comparingProgram)).1 = (execute usedEngine).1 ∧
      SameResult (execute (ofProgram comparingProgram)).2.1 (execute usedEngine).2.1 ∧
      (execute (ofProgram comparingProgram)).2.1.bind Except.toOption = some (.list ⟨2⟩) ∧
      (execute usedEngine).2.1.bind Except.toOption = some (.list ⟨3⟩) := by
  have root : comparingProgram.Oblivious := by decide
  -- There are no directories to look for libraries in.
  have loadable : ∀ program, (ofProgram comparingProgram).host.Loadable program →
      program.Oblivious := by
    rintro program ⟨name, path, text, located, _⟩
    cases located
  have quiet : ∀ machine : Machine, ¬ machine.CallsNative (ofProgram comparingProgram).host := by
    rintro machine ⟨_, _, _, id, function, _, found⟩
    cases found
  obtain ⟨events_eq, sameResult⟩ :=
    @execution_repeatable (ofProgram comparingProgram) usedEngine mainEntry (some [.none]) rfl rfl
      (fun _ => programs_of_reaches root nofun loadable) (fun machine _ => quiet machine) 20
  exact ⟨events_eq, sameResult, by decide +kernel, by decide +kernel⟩

end Engine

end ScriptMachine
