import ScriptMachine.Proofs.Control.Depth

/-!
# The structure of errors

An error is read from the outside: every `ExecutionError.call` is the call of a library
function that was going on, with its location in the program that made it, and at the bottom
is a fault with its location in the innermost program.  `ExecutionError.Traces` says so for a
program and all libraries that were called from it.

The activations that wait tell which calls these are.  `Machine.Waits` holds for them in every
state of an execution, and an error of the current program that goes through all of them is an
error of the first program of this kind.  Label calls are not among the activations, and so
leave no trace.
-/

namespace ScriptMachine

/-! ## Errors -/

/-- The current instruction calls a function of a library that is loaded. -/
structure Machine.CallsLibrary (machine : Machine) (instruction : Instruction)
    (library : Library) : Prop where
  current : machine.current.instruction? = some instruction
  opcode_eq : instruction.opcode = .call
  not_label : ∀ label, instruction.operand 1 ≠ .label label
  named : ∃ reference, (instruction.operand 1).Names machine.context (.library reference) ∧
    machine.shared.libraries.get? reference.library = some library

namespace ExecutionError

/-- The number of library calls that an error has gone through. -/
def calls : ExecutionError → Nat
  | .fault .. => 0
  | .call inner _ => inner.calls + 1

/-- The error of a program.  It is a fault of an import or of the entry without a location,
another fault at an instruction of the program, or the error of a library's program at the
instruction that called it; the calls are those of machines as given. -/
inductive Traces (calling : Machine → Prop) : Program → ExecutionError → Prop where
  | unlocated {program : Program} {cause : Fault} (ofLinking : cause.OfLinking) :
      Traces calling program (.fault cause none)
  | located {program : Program} {cause : Fault} {offset : Nat} {instruction : Instruction}
      (found : program.instructions[offset]? = some instruction)
      (not_ofLinking : ¬cause.OfLinking) :
      Traces calling program (.fault cause (some (.ofInstruction offset instruction)))
  | call {machine : Machine} {instruction : Instruction} {library : Library}
      {inner : ExecutionError} (goes : calling machine)
      (calls : machine.CallsLibrary instruction library)
      (traces : Traces calling library.program inner) :
      Traces calling machine.current.program
        (.call inner (.ofInstruction machine.current.offset instruction))

@[simp] theorem calls_wrap (callers : List Activation) (error : ExecutionError) :
    (error.wrap callers).calls = error.calls + callers.length := by
  induction callers generalizing error with
  | nil => rfl
  | cons caller callers ih =>
      have wrapped := ih (.call error caller.location)
      rw [calls] at wrapped
      rw [List.length_cons, Nat.add_comm callers.length, ← Nat.add_assoc]
      exact wrapped

/-- A program that cannot be linked or entered fails with an error of its own. -/
theorem traces_of_linkFailure {calling : Machine → Prop} {program : Program}
    {error : ExecutionError} (fails : program.LinkFailure error) :
    error.Traces calling program := by
  cases fails with
  | unlocated ofLinking => exact .unlocated ofLinking
  | mark found => exact .located found id

theorem calls_of_linkFailure {program : Program} {error : ExecutionError}
    (fails : program.LinkFailure error) : error.calls = 0 := by
  cases fails <;> rfl

end ExecutionError

/-! ## Calls that are going on -/

/-- The activations that wait, below one of a program, were suspended by calls of libraries. -/
inductive Activation.Waits (calling : Machine → Prop) (root : Program) :
    Program → List Activation → Prop where
  | root : Waits calling root root []
  | call {machine : Machine} {instruction : Instruction} {library : Library}
      (goes : calling machine) (calls : machine.CallsLibrary instruction library)
      (waits : Waits calling root machine.current.program machine.callers) :
      Waits calling root library.program machine.activations

namespace Activation.Waits

variable {calling calling' : Machine → Prop} {root program : Program} {callers : List Activation}

/-- Only the calls matter that fewer activations waited for. -/
theorem mono (waits : Waits calling root program callers)
    (calling_imp : ∀ machine, machine.callers.length < callers.length → calling machine →
      calling' machine) : Waits calling' root program callers := by
  induction waits with
  | root => exact .root
  | @call machine _ _ goes calls waits ih =>
      have lower : machine.callers.length < machine.activations.length := Nat.lt_succ_self _
      apply call (calling_imp machine lower goes) calls
      exact ih fun other fewer => calling_imp other (Nat.lt_trans fewer lower)

theorem tail {caller : Activation} (waits : Waits calling root program (caller :: callers)) :
    Waits calling root caller.program callers := by
  generalize waiting_eq : caller :: callers = waiting at waits
  cases waits with
  | root => cases waiting_eq
  | call goes calls waits =>
      cases waiting_eq
      exact waits

/-- An error of the innermost program becomes one of the first. -/
theorem traces_wrap {error : ExecutionError} (waits : Waits calling root program callers)
    (traces : error.Traces calling program) : (error.wrap callers).Traces calling root := by
  induction waits generalizing error with
  | root => exact traces
  | @call machine instruction _ goes calls waits ih =>
      apply ih
      have location_eq : machine.current.location =
          .ofInstruction machine.current.offset instruction := by
        rw [Activation.location, Activation.instruction, calls.current, Option.getD_some]
      simp only [location_eq]
      exact .call goes calls traces

end Activation.Waits

namespace Machine

variable {host : Host} {machine next : Machine}

/-- During a number of steps the call that the machine makes first is not left: more
activations wait than before it. -/
def CallsFor (host : Host) (machine : Machine) (steps : Nat) : Prop :=
  ∀ taken next, taken < steps → machine.run host (taken + 1) = .running next →
    machine.callers.length < next.callers.length

/-- The call that the machine makes first is going on as long as the execution is. -/
def Unreturned (host : Host) (machine : Machine) : Prop := ∀ steps, machine.CallsFor host steps

/-- The call that a machine makes first is going on after steps that lead to another. -/
def GoingOn (host : Host) (machine before : Machine) : Prop :=
  ∃ steps, before.run host steps = .running machine ∧ before.CallsFor host steps

theorem GoingOn.refl (machine : Machine) : machine.GoingOn host machine := by
  refine ⟨0, rfl, ?_⟩
  intro taken next taken_lt
  exact absurd taken_lt (Nat.not_lt_zero taken)

theorem GoingOn.step {before : Machine} (going : machine.GoingOn host before)
    (stepped : machine.step host = .running next)
    (above : before.callers.length < next.callers.length) : next.GoingOn host before := by
  obtain ⟨steps, runs, callsFor⟩ := going
  have extended := (run_succ runs).trans stepped
  refine ⟨steps + 1, extended, ?_⟩
  intro taken reached taken_lt runsTaken
  rcases Nat.lt_or_eq_of_le (Nat.le_of_lt_succ taken_lt) with earlier | rfl
  · exact callsFor taken reached earlier runsTaken
  · cases extended.symm.trans runsTaken
    exact above

/-- What goes on when the execution ends is not left any more. -/
theorem GoingOn.unreturned {before : Machine} {outcome : Outcome}
    (going : machine.GoingOn host before) (ended : machine.step host = .finished outcome) :
    before.Unreturned host := by
  obtain ⟨steps, runs, callsFor⟩ := going
  intro more taken reached _ runsTaken
  rcases Nat.lt_or_ge taken steps with earlier | later
  · exact callsFor taken reached earlier runsTaken
  · have ends := run_add_of_finished ((run_succ runs).trans ended) (taken - steps)
    rw [Nat.add_right_comm, Nat.add_sub_cancel' later, runsTaken] at ends
    cases ends

/-! ## Steps -/

theorem CallsLibrary.location_eq {instruction : Instruction} {library : Library}
    (calls : machine.CallsLibrary instruction library) :
    machine.current.location = .ofInstruction machine.current.offset instruction := by
  rw [Activation.location, Activation.instruction, calls.current, Option.getD_some]

theorem callsLibrary_of_performs {program : Program} {label : UInt64} {context : Context}
    (performs : machine.Performs host (.callLibrary program label) context) :
    ∃ instruction library, machine.CallsLibrary instruction library ∧
      library.program = program := by
  obtain ⟨instruction, _, current, does⟩ := performs.exists_does (by simp)
  obtain ⟨opcode_eq, reference, library, named, loaded, program_eq, _⟩ := does.call_of_callLibrary
  exact ⟨instruction, library, ⟨current, opcode_eq, named.not_label, reference, named, loaded⟩,
    program_eq⟩

/-- A call leaves the activation that makes it as it was. -/
theorem Performs.withContext_current {flow : Flow} {context : Context}
    (performs : machine.Performs host flow context) (flow_ne : flow ≠ .next) :
    (machine.withContext context).current = machine.current := by
  simp only [withContext, performs.scope_eq flow_ne]

/-- The activations that wait do so for calls that are going on. -/
theorem waits_of_passes {reached : Machine → Prop} {root : Program}
    (waits : Activation.Waits (fun before => reached before ∧ machine.GoingOn host before) root
      machine.current.program machine.callers)
    (machine_reached : reached machine) (stepped : machine.step host = .running next) :
    Activation.Waits (fun before => reached before ∧ next.GoingOn host before) root
      next.current.program next.callers := by
  have kept {program : Program}
      (waits : Activation.Waits (fun before => reached before ∧ machine.GoingOn host before) root
        program next.callers) :
      Activation.Waits (fun before => reached before ∧ next.GoingOn host before) root program
        next.callers :=
    waits.mono fun before fewer calling => ⟨calling.1, calling.2.step stepped fewer⟩
  cases passes_of_step stepped with
  | onward | jump | enterLabel => exact kept waits
  | enterLibrary performs links entry =>
      obtain ⟨instruction, library, calls, rfl⟩ := callsLibrary_of_performs performs
      apply kept
      rw [performs.withContext_current (by simp)]
      exact .call ⟨machine_reached, .refl machine⟩ calls waits
  | invoke invokes invoked resumes =>
      apply kept
      rw [resumes.current_eq, resumes.callers_eq]
      exact waits
  | leaveLabel performs returns_eq resumes =>
      apply kept
      rw [resumes.current_eq, resumes.callers_eq]
      exact waits
  | leaveLibrary performs returns_eq callers_eq resumes =>
      apply kept
      rw [resumes.current_eq, resumes.callers_eq]
      rw [callers_eq] at waits
      exact waits.tail

/-! ## Ends -/

/-- The instruction at which an activation waits, or fails, is one of its program. -/
theorem exists_location (activation : Activation)
    (offset_lt : activation.offset < activation.program.instructions.size) :
    ∃ instruction, activation.program.instructions[activation.offset]? = some instruction ∧
      activation.location = .ofInstruction activation.offset instruction := by
  refine ⟨activation.program.instructions[activation.offset],
    Array.getElem?_eq_getElem offset_lt, ?_⟩
  rw [Activation.location, Activation.instruction, Activation.instruction?,
    Array.getElem?_eq_getElem offset_lt, Option.getD_some]

/-- How an execution ends with an error: by a fault at an instruction of the current program, by
the failure of a library program that cannot be linked or entered, or by a fault at the call that
the current program returns to. -/
inductive Fails (host : Host) (machine : Machine) : ExecutionError → Prop where
  | here {cause : Fault} {offset : Nat} {instruction : Instruction}
      (found : machine.current.program.instructions[offset]? = some instruction)
      (not_ofLinking : ¬cause.OfLinking) :
      Fails host machine
        (.wrap machine.callers (.fault cause (some (.ofInstruction offset instruction))))
  | callee {instruction : Instruction} {library : Library} {inner : ExecutionError}
      (calls : machine.CallsLibrary instruction library)
      (depth_lt : machine.current.depth + 1 < host.maxDepth)
      (fails : library.program.LinkFailure inner) :
      Fails host machine
        (.wrap machine.callers (.call inner (.ofInstruction machine.current.offset instruction)))
  | caller {cause : Fault} {caller : Activation} {callers : List Activation}
      {instruction : Instruction} (returns_eq : machine.current.returns = [])
      (callers_eq : machine.callers = caller :: callers)
      (found : caller.program.instructions[caller.offset]? = some instruction)
      (not_ofLinking : ¬cause.OfLinking) :
      Fails host machine
        (.wrap callers (.fault cause (some (.ofInstruction caller.offset instruction))))

theorem Discards.error_eq {outcome : Outcome} {error : ExecutionError}
    (discards : machine.Discards outcome) (failed : outcome.result = .error error) :
    ∃ cause : Fault, ¬cause.OfLinking ∧
      error = .wrap machine.callers (.fault cause (some machine.current.location)) := by
  cases discards with
  | fault growth ofOperand =>
      cases failed
      exact ⟨_, ofOperand.not_ofLinking, rfl⟩

theorem not_ofLinking_of_refuses {instruction : Instruction} {depth : Nat} {context : Context}
    {cause : Fault} (refuses : instruction.Refuses host depth context cause) :
    ¬cause.OfLinking := by
  cases refuses with
  | operand ofOperand => exact ofOperand.not_ofLinking
  | unknownFunction | unknownNativeFunction | unknownLibrary | labelTooDeep | libraryTooDeep =>
      exact id

/-- Every error with which an execution ends is one of those listed. -/
theorem fails_of_closes {outcome : Outcome} {error : ExecutionError} (inCode : machine.InCode)
    (closes : machine.Closes host outcome) (failed : outcome.result = .error error) :
    machine.Fails host error := by
  have here {cause : Fault} (not_ofLinking : ¬cause.OfLinking)
      (offset_lt : machine.current.offset < machine.current.program.instructions.size) :
      machine.Fails host
        (.wrap machine.callers (.fault cause (some machine.current.location))) := by
    obtain ⟨instruction, found, location_eq⟩ := exists_location machine.current offset_lt
    rw [location_eq]
    exact .here found not_ofLinking
  have callee {program : Program} {label : UInt64} {context : Context} {inner : ExecutionError}
      (performs : machine.Performs host (.callLibrary program label) context)
      (fails : program.LinkFailure inner) :
      machine.Fails host
        (.wrap machine.callers (.call inner machine.current.location)) := by
    obtain ⟨_, _, _, does⟩ := performs.exists_does (by simp)
    obtain ⟨instruction, library, calls, rfl⟩ := callsLibrary_of_performs performs
    rw [calls.location_eq]
    exact .callee calls does.depth_lt_of_callLibrary fails
  cases closes with
  | refuse current growth refuses =>
      cases failed
      exact here (not_ofLinking_of_refuses refuses) (Array.getElem?_eq_some_iff.mp current).1
  | notLinked performs links =>
      cases failed
      exact callee performs (Program.linkFailure_of_link links)
  | notEntered performs links entry =>
      cases failed
      exact callee performs (Program.linkFailure_of_entryOffset _ entry)
  | invoke invokes invoked =>
      cases failed
      exact here id ((performs_of_next invokes).offset_lt (by simp))
  | discardInvoked invokes invoked discards =>
      obtain ⟨cause, not_ofLinking, rfl⟩ := discards.error_eq failed
      exact here not_ofLinking ((performs_of_next invokes).offset_lt (by simp))
  | @discardFromLabel _ context offset returns _ performs returns_eq discards =>
      obtain ⟨cause, not_ofLinking, rfl⟩ := discards.error_eq failed
      have returns_lt := inCode.current.returns_lt
      rw [returns_eq, List.forall_mem_cons] at returns_lt
      let left := (machine.withContext context).leaveLabel offset returns
      obtain ⟨instruction, found, location_eq⟩ := exists_location left.current returns_lt.1
      rw [location_eq]
      exact .here found not_ofLinking
  | discardFromLibrary performs returns_eq callers_eq discards =>
      obtain ⟨cause, not_ofLinking, rfl⟩ := discards.error_eq failed
      have waiting := inCode.callers
      rw [callers_eq, List.forall_mem_cons] at waiting
      obtain ⟨instruction, found, location_eq⟩ := exists_location _ waiting.1.2
      rw [location_eq]
      exact .caller returns_eq callers_eq found not_ofLinking
  | finish performs => cases failed

namespace Fails

variable {error : ExecutionError}

theorem traces {calling : Machine → Prop} {root : Program} (fails : machine.Fails host error)
    (waits : Activation.Waits calling root machine.current.program machine.callers)
    (calling_machine : calling machine) : error.Traces calling root := by
  cases fails with
  | here found not_ofLinking => exact waits.traces_wrap (.located found not_ofLinking)
  | callee calls depth_lt fails =>
      apply waits.traces_wrap
      exact .call calling_machine calls (ExecutionError.traces_of_linkFailure fails)
  | caller returns_eq callers_eq found not_ofLinking =>
      rw [callers_eq] at waits
      exact waits.tail.traces_wrap (.located found not_ofLinking)

/-- Every call in an error takes part of the depth. -/
theorem calls_lt (fails : machine.Fails host error) (counted : machine.Counted host) :
    error.calls < max 1 host.maxDepth := by
  have depth_eq := counted.1
  have waiting_le := Activation.length_le_frameCount machine.callers
  have bounded := counted.2.1
  rw [Activation.frameCount_cons] at depth_eq
  cases fails with
  | here =>
      rw [ExecutionError.calls_wrap, ExecutionError.calls]
      omega
  | callee calls depth_lt fails =>
      rw [ExecutionError.calls_wrap, ExecutionError.calls,
        ExecutionError.calls_of_linkFailure fails]
      omega
  | caller returns_eq callers_eq =>
      rw [ExecutionError.calls_wrap, ExecutionError.calls]
      rw [callers_eq] at depth_eq waiting_le
      rw [List.length_cons] at waiting_le
      omega

/-- Inside a label call a program fails as outside of it. -/
theorem of_labelCall (fails : machine.Fails host error) (inside : machine.current.returns ≠ [])
    (not_calls : ∀ instruction library, ¬machine.CallsLibrary instruction library) :
    ∃ cause offset instruction,
      machine.current.program.instructions[offset]? = some instruction ∧
        error = .wrap machine.callers
          (.fault cause (some (.ofInstruction offset instruction))) := by
  cases fails with
  | here found => exact ⟨_, _, _, found, rfl⟩
  | callee calls => exact absurd calls (not_calls _ _)
  | caller returns_eq => exact absurd returns_eq inside

end Fails

end Machine

/-! ## Executions -/

namespace Engine

variable {engine : Engine} {entry : Entry} {arguments : Option (List Value)} {fresh : Bool}

/-- The execution makes a call that is going on when it ends. -/
def EndsIn (engine : Engine) (entry : Entry) (arguments : Option (List Value)) (fresh : Bool)
    (machine : Machine) : Prop :=
  engine.Reaches entry arguments fresh machine ∧ machine.Unreturned engine.host

theorem linkFailure_of_start {outcome : Outcome} {error : ExecutionError}
    (starts : engine.start entry arguments fresh = .finished outcome)
    (failed : outcome.result = .error error) : engine.program.LinkFailure error := by
  rcases result_of_start starts with ⟨_, _, links, result_eq⟩ | ⟨_, _, _, missing, result_eq⟩
  · cases failed.symm.trans result_eq
    exact Program.linkFailure_of_link links
  · cases failed.symm.trans result_eq
    exact Program.linkFailure_of_entryOffset _ missing

/-- In every state of an execution the activations that wait do so for calls that are going on. -/
theorem Reaches.waits {machine : Machine} (reaches : engine.Reaches entry arguments fresh machine) :
    Activation.Waits
      (fun before =>
        engine.Reaches entry arguments fresh before ∧ machine.GoingOn engine.host before)
      engine.program machine.current.program machine.callers := by
  apply Reaches.holds _ _ reaches
  · intro initial starts
    obtain ⟨linked, offset, -, -, rfl⟩ := exists_linked_of_start starts
    exact .root
  · intro before after reaches waits stepped
    exact Machine.waits_of_passes waits reaches stepped

/-- The error of an execution.  Either it has no location and is a fault of an import or of the
entry, or it is at an instruction of the program and is none of these.  If it is the error of a
library, the instruction is a call, not of a label, the library is the one whose function was
called there last and has not returned, and its error is of the same kind for the library's
program.  There are fewer such calls than the host allows.  Calls of labels are not among them:
what fails inside a label call, and does not call a library, is a fault at an instruction of the
same program, and only library calls that wait for this program are around it. -/
theorem error_structure {steps : Nat} {error : ExecutionError}
    (failed : (engine.execute steps entry arguments fresh).1 = some (.error error)) :
    error.Traces (engine.EndsIn entry arguments fresh) engine.program ∧
    error.calls < max 1 engine.host.maxDepth ∧
    ∀ last outcome, engine.Reaches entry arguments fresh last →
      last.step engine.host = .finished outcome → last.current.returns ≠ [] →
      (∀ instruction library, ¬last.CallsLibrary instruction library) →
      ∃ cause offset instruction,
        last.current.program.instructions[offset]? = some instruction ∧
          error = .wrap last.callers
            (.fault cause (some (.ofInstruction offset instruction))) := by
  have fails {last : Machine} {outcome : Outcome}
      (reaches : engine.Reaches entry arguments fresh last)
      (ended : last.step engine.host = .finished outcome) : last.Fails engine.host error := by
    obtain ⟨initial, taken, starts, runs⟩ := id reaches
    have inCode := (Machine.inCode_and_counted_of_run starts runs).1
    exact Machine.fails_of_closes inCode (Machine.closes_of_step ended)
      (result_eq_of_execute failed reaches ended)
  refine ⟨?_, ?_, ?_⟩
  · obtain ⟨outcome, result_eq, starts | ⟨last, reaches, ended⟩⟩ := exists_last_of_execute failed
    · exact ExecutionError.traces_of_linkFailure (linkFailure_of_start starts result_eq)
    · have endsIn {before : Machine} (reaches : engine.Reaches entry arguments fresh before)
          (going : last.GoingOn engine.host before) : engine.EndsIn entry arguments fresh before :=
        ⟨reaches, going.unreturned ended⟩
      apply (fails reaches ended).traces _ (endsIn reaches (.refl last))
      exact reaches.waits.mono fun before _ calling => endsIn calling.1 calling.2
  · obtain ⟨outcome, result_eq, starts | ⟨last, reaches, ended⟩⟩ := exists_last_of_execute failed
    · rw [ExecutionError.calls_of_linkFailure (linkFailure_of_start starts result_eq)]
      omega
    · obtain ⟨initial, taken, starts, runs⟩ := id reaches
      have counted := (Machine.inCode_and_counted_of_run starts runs).2
      exact (fails reaches ended).calls_lt counted
  · intro last outcome reaches ended inside not_calls
    exact (fails reaches ended).of_labelCall inside not_calls

/-- A library whose function calls a label, at which it jumps to one that is not there. -/
def failingLibrary : Library where
  path := ⟨"failing.cvm"⟩
  program :=
    { imports := []
      constants := []
      vars := [⟨0, "result", .hidden⟩]
      functions := [⟨0, "work", .exported⟩]
      instructions := #[
        .make .label [.label 0],
        .make .call [.variable 0, .label 1],
        .make .label [.label 1],
        .make .jump [.label 2]] }

/-- An engine in which the library is loaded, for a program that calls its function from a
label. -/
def failingEngine : Engine :=
  { Engine.ofProgram
      { imports := []
        constants := []
        vars := [⟨0, "result", .hidden⟩]
        functions := [⟨0, "main", .exported⟩]
        instructions := #[
          .make .label [.label 0],
          .make .call [.variable 0, .label 1],
          .make .label [.label 1],
          .make .call [.variable 0, .literal (.text "work")]] } with
    shared := { SharedState.empty with libraries := ⟨[failingLibrary]⟩ } }

theorem error_structure_failingEngine :
    ∃ error, (failingEngine.execute 8 mainEntry none false).1 = some (.error error) ∧
      error.rootFault = .unboundLabel 2 ∧ error.calls = 1 ∧
      error.Traces (failingEngine.EndsIn mainEntry none false) failingEngine.program := by
  have fails : ∃ error, (failingEngine.execute 8 mainEntry none false).1 = some (.error error) ∧
      error.rootFault = .unboundLabel 2 ∧ error.calls = 1 := ⟨_, rfl, rfl, rfl⟩
  obtain ⟨error, failed, root_eq, calls_eq⟩ := fails
  exact ⟨error, failed, root_eq, calls_eq, (error_structure failed).1⟩

end Engine

end ScriptMachine
