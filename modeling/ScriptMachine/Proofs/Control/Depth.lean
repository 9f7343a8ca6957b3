import ScriptMachine.Proofs.Control.Frames
import ScriptMachine.Proofs.Link.Failures
import ScriptMachine.Proofs.Machine.Callees
import ScriptMachine.Proofs.Machine.Executions

/-!
# The depth of calls

The depth at which a program runs is the number of calls that are going on, of labels and of
library functions alike.  It is kept in two ways, counted up and down around the label calls of
an activation and passed on to the activation of a library function, and
`Activation.Counted` says of a whole stack of activations that both agree with the number of
frames.  From this it follows that every call runs at one depth, one below its caller, and that
a call is too deep exactly if its callee could otherwise be entered and there is no room.
-/

namespace ScriptMachine

/-! ## Counting the calls -/

/-- The number of frames of activations. -/
def Activation.frameCount : List Activation → Nat
  | [] => 0
  | activation :: below => activation.returns.length + 1 + frameCount below

/-- Every activation runs at the depth that the frames below it make, which the host allows. -/
def Activation.Counted (host : Host) : List Activation → Prop
  | [] => True
  | activation :: below =>
      activation.depth + 1 = frameCount (activation :: below) ∧
        (activation.depth = 0 ∨ activation.depth < host.maxDepth) ∧ Counted host below

namespace Activation

variable {host : Host} {activation moved : Activation} {below : List Activation}

@[simp] theorem frameCount_cons (activation : Activation) (below : List Activation) :
    frameCount (activation :: below) = activation.returns.length + 1 + frameCount below := rfl

theorem length_le_frameCount (activations : List Activation) :
    activations.length ≤ frameCount activations := by
  induction activations with
  | nil => exact Nat.le_refl 0
  | cons activation below ih =>
      rw [frameCount_cons, List.length_cons]
      omega

/-- Only the depth and the number of label calls count. -/
theorem Counted.move (counted : Counted host (activation :: below))
    (depth_eq : moved.depth = activation.depth)
    (returns_eq : moved.returns.length = activation.returns.length) :
    Counted host (moved :: below) := by
  simp only [Counted, frameCount_cons, depth_eq, returns_eq]
  exact counted

/-- A label call for which there is room. -/
theorem Counted.enterLabel (counted : Counted host (activation :: below))
    (depth_eq : moved.depth = activation.depth + 1)
    (returns_eq : moved.returns.length = activation.returns.length + 1)
    (depth_lt : activation.depth + 1 < host.maxDepth) : Counted host (moved :: below) := by
  obtain ⟨count_eq, -, counted⟩ := counted
  rw [frameCount_cons] at count_eq
  refine ⟨?_, .inr (by omega), counted⟩
  rw [frameCount_cons]
  omega

/-- The activation of a library function for which there is room. -/
theorem Counted.enterLibrary (counted : Counted host (activation :: below))
    (depth_eq : moved.depth = activation.depth + 1) (returns_eq : moved.returns = [])
    (depth_lt : activation.depth + 1 < host.maxDepth) :
    Counted host (moved :: activation :: below) := by
  have count_eq := counted.1
  refine ⟨?_, .inr (by omega), counted⟩
  rw [frameCount_cons, returns_eq, List.length_nil]
  omega

/-- A label call that ends. -/
theorem Counted.leaveLabel (counted : Counted host (activation :: below))
    (depth_eq : moved.depth = activation.depth - 1)
    (returns_eq : moved.returns.length + 1 = activation.returns.length) :
    Counted host (moved :: below) := by
  obtain ⟨count_eq, bounded, counted⟩ := counted
  rw [frameCount_cons] at count_eq
  refine ⟨?_, by omega, counted⟩
  rw [frameCount_cons]
  omega

end Activation

/-! ## Steps -/

namespace Machine

variable {host : Host} {machine next : Machine}

/-- All activations run at the depth that the calls in progress make. -/
def Counted (host : Host) (machine : Machine) : Prop := Activation.Counted host machine.activations

theorem length_frames (machine : Machine) :
    machine.frames.length = Activation.frameCount machine.activations := by
  unfold frames positions
  induction machine.activations with
  | nil => rfl
  | cons activation below ih =>
      rw [List.map_cons, List.flatMap_cons, List.length_append, ih, Activation.frameCount_cons]
      simp [Activation.position, Position.frames]

theorem Counted.depth_eq (counted : machine.Counted host) :
    machine.current.depth + 1 = machine.frames.length := by
  rw [length_frames]
  exact counted.1

theorem Counted.resume {value : Value} (counted : machine.Counted host)
    (resumes : machine.Resumes value next) : next.Counted host := by
  have moved : Activation.Counted host (next.current :: machine.callers) :=
    Activation.Counted.move counted (by rw [resumes.current_eq]) (by rw [resumes.current_eq])
  rw [Counted, activations, resumes.callers_eq]
  exact moved

theorem counted_of_passes (counted : machine.Counted host) (passes : machine.Passes host next) :
    next.Counted host := by
  have within {scope : Scope} {shared : SharedState} :
      Counted host ⟨shared, { machine.current with scope := scope }, machine.callers⟩ :=
    Activation.Counted.move counted rfl rfl
  cases passes with
  | onward performs | jump performs => exact Activation.Counted.move counted rfl rfl
  | enterLabel performs =>
      obtain ⟨_, _, _, does⟩ := performs.exists_does (by simp)
      exact Activation.Counted.enterLabel counted rfl rfl does.depth_lt_of_callLabel
  | enterLibrary performs links entry =>
      obtain ⟨_, _, _, does⟩ := performs.exists_does (by simp)
      exact Activation.Counted.enterLibrary within rfl rfl does.depth_lt_of_callLibrary
  | invoke invokes invoked resumes => exact Counted.resume within resumes
  | leaveLabel performs returns_eq resumes =>
      apply Counted.resume _ resumes
      apply Activation.Counted.leaveLabel counted rfl
      rw [returns_eq]
      rfl
  | leaveLibrary performs returns_eq callers_eq resumes =>
      apply Counted.resume _ resumes
      have waiting := counted.2.2
      rw [callers_eq] at waiting
      exact waiting

/-- Executions begin at depth zero. -/
theorem counted_of_start {engine : Engine} {entry : Entry} {arguments : Option (List Value)}
    {fresh : Bool} (starts : engine.start entry arguments fresh = .running machine) :
    machine.Counted engine.host := by
  obtain ⟨linked, offset, -, -, rfl⟩ := Engine.exists_linked_of_start starts
  exact ⟨rfl, .inl rfl, trivial⟩

/-- What control and depth are like in every state of an execution. -/
theorem inCode_and_counted_of_run {engine : Engine} {entry : Entry}
    {arguments : Option (List Value)} {fresh : Bool} {initial : Machine} {steps : Nat}
    (starts : engine.start entry arguments fresh = .running initial)
    (runs : initial.run engine.host steps = .running machine) :
    machine.InCode ∧ machine.Counted engine.host := by
  apply holds_of_run _ ⟨(inCode_of_start starts).1, counted_of_start starts⟩ runs
  rintro before after ⟨inCode, counted⟩ stepped
  have passes := passes_of_step stepped
  exact ⟨inCode_of_passes inCode passes, counted_of_passes counted passes⟩

/-- During a call the depth is that of the call and the number of calls above it. -/
theorem depth_of_runsWithin {start : Machine} (inCode : start.InCode)
    (counted : start.Counted host) (runs : start.RunsWithin host machine) :
    ∃ above offset,
      machine.frames = above ++ ⟨start.current.program, offset⟩ :: start.framesBelow ∧
        machine.current.depth = start.current.depth + above.length := by
  have countedInside : machine.Counted host := by
    induction runs with
    | start => exact counted
    | step runs stepped within ih => exact counted_of_passes ih (passes_of_step stepped)
  obtain ⟨-, above, offset, frames_eq⟩ := frames_of_runsWithin inCode runs
  refine ⟨above, offset, frames_eq, ?_⟩
  have depth_eq := counted.depth_eq
  have inside_eq := countedInside.depth_eq
  rw [frames_eq_cons, List.length_cons] at depth_eq
  rw [frames_eq, List.length_append, List.length_cons] at inside_eq
  omega

/-! ## Calls that are too deep -/

/-- The calls that wait do not change the fault at the bottom of an error. -/
theorem rootFault_aborted (machine : Machine) (error failure : ExecutionError)
    (result_eq : (machine.aborted error).result = .error failure) :
    failure.rootFault = error.rootFault := by
  obtain rfl := Except.error.inj result_eq
  exact error.rootFault_wrap machine.callers

theorem Discards.ofOperand {outcome : Outcome} {error : ExecutionError}
    (discards : machine.Discards outcome) (failed : outcome.result = .error error) :
    error.rootFault.OfOperand := by
  cases discards with
  | fault growth ofOperand =>
      rw [rootFault_aborted _ _ _ failed]
      exact ofOperand

/-- Of the ways in which an execution ends, only a refusal is a stack overflow. -/
theorem Closes.refuses_of_stackOverflow {outcome : Outcome} {error : ExecutionError}
    (closes : machine.Closes host outcome) (failed : outcome.result = .error error)
    (root_eq : error.rootFault = .stackOverflow) :
    ∃ instruction, machine.current.instruction? = some instruction ∧
      instruction.Refuses host machine.current.depth machine.context .stackOverflow := by
  have unlinked {program : Program} {failure : ExecutionError}
      (fails : program.LinkFailure failure) : failure.rootFault ≠ .stackOverflow := by
    cases fails with
    | unlocated ofLinking =>
        rintro rfl
        exact ofLinking
    | mark found => simp [ExecutionError.rootFault]
  have discarded {before : Machine} (discards : before.Discards outcome) : False := by
    have ofOperand := discards.ofOperand failed
    rw [root_eq] at ofOperand
    exact ofOperand
  cases closes with
  | refuse current growth refuses =>
      rw [rootFault_aborted _ _ _ failed] at root_eq
      subst root_eq
      exact ⟨_, current, refuses⟩
  | notLinked performs links =>
      rw [rootFault_aborted _ _ _ failed] at root_eq
      exact (unlinked (Program.linkFailure_of_link links) root_eq).elim
  | @notEntered program _ _ _ _ performs links entry =>
      rw [rootFault_aborted _ _ _ failed] at root_eq
      exact (unlinked (program.linkFailure_of_entryOffset entry) root_eq).elim
  | invoke invokes invoked =>
      rw [rootFault_aborted _ _ _ failed] at root_eq
      cases root_eq
  | discardInvoked invokes invoked discards => exact (discarded discards).elim
  | discardFromLabel performs returns_eq discards => exact (discarded discards).elim
  | discardFromLibrary performs returns_eq callers_eq discards => exact (discarded discards).elim
  | finish performs => cases failed

/-- A call ends the execution by a stack overflow exactly if its callee could be entered and
there is no room for it. -/
theorem stackOverflow_iff {instruction : Instruction}
    (current : machine.current.instruction? = some instruction)
    (opcode_eq : instruction.opcode = .call) :
    (∃ outcome error, machine.step host = .finished outcome ∧ outcome.result = .error error ∧
      error.rootFault = .stackOverflow) ↔
    instruction.Enterable machine.context ∧ host.maxDepth ≤ machine.current.depth + 1 := by
  constructor
  · rintro ⟨outcome, error, stepped, failed, root_eq⟩
    obtain ⟨other, found, refuses⟩ :=
      (closes_of_step stepped).refuses_of_stackOverflow failed root_eq
    obtain rfl := Option.some.inj (current.symm.trans found)
    exact refuses.of_stackOverflow
  · rintro ⟨enterable, depth_ge⟩
    have ends := Instruction.call_ends_of_tooDeep enterable depth_ge
    rcases next_eq : machine.next host with ⟨cause | flow, context⟩
    · have run := next_eq
      simp only [Machine.next, current, Instruction.perform, opcode_eq] at run
      obtain rfl := ends.of_run_error run
      have stepped := step_of_next_error next_eq
      exact ⟨_, _, stepped, rfl, rootFault_aborted _ _ _ rfl⟩
    · have run := next_eq
      simp only [Machine.next, current, Instruction.perform, opcode_eq] at run
      exact (ends.of_run_ok run).elim

/-! ## Executions -/

/-- A call whose callee can be entered puts a frame above those that there are. -/
theorem framesBelow_of_enterable {instruction : Instruction}
    (current : machine.current.instruction? = some instruction)
    (opcode_eq : instruction.opcode = .call) (enterable : instruction.Enterable machine.context)
    (stepped : machine.step host = .running next) : next.framesBelow = machine.frames := by
  have performed {flow : Flow} {context : Context} (performs : machine.Performs host flow context)
      (not_ret : ∀ value, flow ≠ .ret value) :
      ∃ effect, instruction.Does host machine.current.depth machine.context flow effect := by
    obtain ⟨other, effect, found, does⟩ := performs.exists_does not_ret
    obtain rfl := Option.some.inj (current.symm.trans found)
    exact ⟨effect, does⟩
  have not_ends : ¬machine.Ends := by
    intro ends
    rw [ends instruction current] at opcode_eq
    contradiction
  cases passes_of_step stepped with
  | onward performs =>
      obtain ⟨_, does⟩ := performed performs (by simp)
      exact absurd opcode_eq does.opcode_ne_of_next.2
  | jump performs =>
      obtain ⟨_, does⟩ := performed performs (by simp)
      obtain ⟨_, jumps, _⟩ := does.jumps_of_jump
      cases jumps <;> simp_all
  | enterLabel performs => rfl
  | enterLibrary performs links entry => rfl
  | invoke invokes =>
      obtain ⟨_, does⟩ := performed (performs_of_next invokes) (by simp)
      exact absurd does.call_of_callNative.2.1 (enterable.not_native _)
  | leaveLabel performs => exact absurd performs.ends not_ends
  | leaveLibrary performs => exact absurd performs.ends not_ends

/-- In every state of an execution: the current instruction runs at depth zero or below the
bound.  As long as the innermost call goes on its frame stays on the stack, above the same
frames, and the depth is that of the call and the number of calls above it; so all instructions of
the call run at one depth, also after calls that it has made.  A step lets the innermost frame go
on, puts one above it or ends it, and a call whose callee can be entered puts one above it, whose
instructions run one below.  A call is a stack overflow exactly if its callee can be entered and
there is no room for it, and never if the callee is a function of the host. -/
theorem call_depth_bound {engine : Engine} {entry : Entry} {arguments : Option (List Value)}
    {fresh : Bool} {initial : Machine} {steps : Nat}
    (starts : engine.start entry arguments fresh = .running initial)
    (runs : initial.run engine.host steps = .running machine) :
    (machine.current.depth = 0 ∨ machine.current.depth < engine.host.maxDepth) ∧
    (∀ inside, machine.RunsWithin engine.host inside → ∃ above offset,
      inside.frames = above ++ ⟨machine.current.program, offset⟩ :: machine.framesBelow ∧
        inside.current.depth = machine.current.depth + above.length) ∧
    (∀ next, machine.step engine.host = .running next → machine.Shifts next.frames) ∧
    ∀ instruction, machine.current.instruction? = some instruction → instruction.opcode = .call →
      (∀ next, instruction.Enterable machine.context → machine.step engine.host = .running next →
        ∀ inside, next.RunsWithin engine.host inside → ∃ above offset,
          inside.frames = above ++ ⟨next.current.program, offset⟩ :: machine.frames ∧
            inside.current.depth = machine.current.depth + 1 + above.length) ∧
      ((∃ outcome error, machine.step engine.host = .finished outcome ∧
          outcome.result = .error error ∧ error.rootFault = .stackOverflow) ↔
        instruction.Enterable machine.context ∧
          engine.host.maxDepth ≤ machine.current.depth + 1) ∧
      ∀ id, (instruction.operand 1).Names machine.context (.native id) →
        ∀ outcome error, machine.step engine.host = .finished outcome →
          outcome.result = .error error → error.rootFault ≠ .stackOverflow := by
  obtain ⟨inCode, counted⟩ := inCode_and_counted_of_run starts runs
  refine ⟨counted.2.1, fun _ => depth_of_runsWithin inCode counted, ?_, ?_⟩
  · intro next stepped
    exact shifts_of_passes inCode (passes_of_step stepped)
  · intro instruction current opcode_eq
    refine ⟨?_, stackOverflow_iff current opcode_eq, ?_⟩
    · intro next enterable stepped inside within
      have passes := passes_of_step stepped
      have countedNext := counted_of_passes counted passes
      obtain ⟨above, offset, frames_eq, depth_eq⟩ :=
        depth_of_runsWithin (inCode_of_passes inCode passes) countedNext within
      have below_eq := framesBelow_of_enterable current opcode_eq enterable stepped
      have next_eq := countedNext.depth_eq
      have machine_eq := counted.depth_eq
      rw [frames_eq_cons, List.length_cons, below_eq] at next_eq
      rw [below_eq] at frames_eq
      exact ⟨above, offset, frames_eq, by omega⟩
    · intro id named outcome error stepped failed root_eq
      have overflow := (stackOverflow_iff current opcode_eq).mp
        ⟨outcome, error, stepped, failed, root_eq⟩
      exact overflow.1.not_native id named

/-- A program whose main function calls a label that calls itself. -/
def recursiveProgram : Program where
  imports := []
  constants := []
  vars := [⟨0, "result", .hidden⟩]
  functions := [⟨0, "main", .exported⟩]
  instructions := #[
    .make .label [.label 0],
    .make .call [.variable 0, .label 1],
    .make .label [.label 1],
    .make .call [.variable 0, .label 1]]

/-- An engine for it that has room for two calls. -/
def recursiveEngine : Engine :=
  { Engine.ofProgram recursiveProgram with host.maxDepth := 3 }

theorem call_depth_bound_recursiveEngine :
    ∃ initial machine instruction,
      recursiveEngine.start Engine.mainEntry none true = .running initial ∧
        initial.run recursiveEngine.host 5 = .running machine ∧
        machine.current.depth = 2 ∧ machine.current.instruction? = some instruction ∧
        instruction.opcode = .call ∧
        ∃ outcome error, machine.step recursiveEngine.host = .finished outcome ∧
          outcome.result = .error error ∧ error.rootFault = .stackOverflow := by
  have states : ∃ initial machine instruction offset,
      recursiveEngine.start Engine.mainEntry none true = .running initial ∧
        initial.run recursiveEngine.host 5 = .running machine ∧
        machine.current.depth = 2 ∧ machine.current.instruction? = some instruction ∧
        instruction.opcode = .call ∧ instruction.operand 1 = .label 1 ∧
        machine.context.scope.labelOffset? 1 = some offset :=
    ⟨_, _, _, _, rfl, rfl, rfl, rfl, rfl, rfl, rfl⟩
  obtain ⟨initial, machine, instruction, offset, starts, runs, depth_eq, current, opcode_eq,
    operand_eq, bound⟩ := states
  have depth_ge : recursiveEngine.host.maxDepth ≤ machine.current.depth + 1 := by
    rw [depth_eq]
    exact Nat.le_refl 3
  obtain ⟨-, -, -, calls⟩ := call_depth_bound starts runs
  have overflows := (calls instruction current opcode_eq).2.1.mpr
    ⟨.label operand_eq bound, depth_ge⟩
  exact ⟨initial, machine, instruction, starts, runs, depth_eq, current, opcode_eq, overflows⟩

end Machine

end ScriptMachine
