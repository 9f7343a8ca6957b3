import ScriptMachine.Machine.Basic
import ScriptMachine.Proofs.Machine.Performance

/-!
# Transitions of machines

What one step of a machine can be.  A step that leaves the machine running is a
`Machine.Passes`: it performs an instruction and goes on behind it or at a label, calls a
label, a library function or a host function, or gives a value back to a call that waits.
A step that ends the execution is a `Machine.Closes`.

Both are exhaustive, so that what holds along every run is shown for the seven ways of
going on, and what holds at its end for the eight ways of
ending.  An error goes through all calls that wait, and the fault at its bottom stays the same.
-/

namespace ScriptMachine

/-! ## Errors -/

namespace ExecutionError

/-- The error as it is when it has gone through the calls that activations wait for. -/
def wrap (callers : List Activation) (error : ExecutionError) : ExecutionError :=
  callers.foldl (fun error caller => .call error caller.location) error

@[simp] theorem rootFault_wrap (callers : List Activation) (error : ExecutionError) :
    (error.wrap callers).rootFault = error.rootFault := by
  induction callers generalizing error with
  | nil => rfl
  | cons caller callers ih => exact ih (.call error caller.location)

end ExecutionError

/-! ## Steps -/

namespace Machine

/-- What a machine performs next: the instruction at its offset, or behind the last one the
return of zero. -/
inductive Performs (host : Host) (machine : Machine) : Flow → Context → Prop where
  | instruction {instruction : Instruction} {middle : Context} {effect : Effect} {flow : Flow}
      (current : machine.current.instruction? = some instruction)
      (growth : machine.context.GrowsTo middle)
      (does : instruction.Does host machine.current.depth machine.context flow effect) :
      Performs host machine flow (effect.apply middle)
  | fallOff (current : machine.current.instruction? = none) :
      Performs host machine (.ret (.number .zero)) machine.context

/-- How a machine goes on when the call at its offset has a result. -/
inductive Resumes (machine : Machine) (value : Value) : Machine → Prop where
  | store {middle : Context} {effect : Effect} (growth : machine.context.GrowsTo middle)
      (receives : (machine.current.instruction.operand 0).Receives machine.current.scope value
        effect) :
      Resumes machine value
        ((machine.withContext (effect.apply middle)).goTo (machine.current.offset + 1))

/-- The machine when the innermost label call ends. -/
def leaveLabel (machine : Machine) (offset : Nat) (returns : List Nat) : Machine :=
  { machine with
    current.offset := offset
    current.returns := returns
    current.depth := machine.current.depth - 1 }

/-- The ways in which a step leaves a machine running. -/
inductive Passes (host : Host) (machine : Machine) : Machine → Prop where
  | onward {context : Context} (performs : machine.Performs host .next context) :
      Passes host machine ((machine.withContext context).goTo (machine.current.offset + 1))
  | jump {offset : Nat} {context : Context}
      (performs : machine.Performs host (.jump offset) context) :
      Passes host machine ((machine.withContext context).goTo offset)
  | enterLabel {offset : Nat} {context : Context}
      (performs : machine.Performs host (.callLabel offset) context) :
      Passes host machine ((machine.withContext context).enterLabel offset)
  | enterLibrary {program : Program} {label : UInt64} {context linked : Context} {offset : Nat}
      (performs : machine.Performs host (.callLibrary program label) context)
      (links : program.link host none false context.shared = (.ok (), linked))
      (entry : linked.scope.entryOffset (.label label) = .ok offset) :
      Passes host machine
        { shared := linked.shared
          current := ⟨program, linked.scope, machine.current.depth + 1, offset, []⟩
          callers := (machine.withContext context).current :: machine.callers }
  | invoke {name : String} {id : NativeId} {function : NativeFunction} {arguments : List Value}
      {context : Context} {value : Value} {memory : Memory} {next : Machine}
      (invokes : machine.next host = (.ok (.callNative name id function arguments), context))
      (invoked : function arguments context.shared.memory = (.ok value, memory))
      (resumes : (machine.withContext (context.withMemory memory)).Resumes value next) :
      Passes host machine next
  | leaveLabel {value : Value} {context : Context} {offset : Nat} {returns : List Nat}
      {next : Machine} (performs : machine.Performs host (.ret value) context)
      (returns_eq : machine.current.returns = offset :: returns)
      (resumes : ((machine.withContext context).leaveLabel offset returns).Resumes value next) :
      Passes host machine next
  | leaveLibrary {value : Value} {context : Context} {caller : Activation}
      {callers : List Activation} {next : Machine}
      (performs : machine.Performs host (.ret value) context)
      (returns_eq : machine.current.returns = []) (callers_eq : machine.callers = caller :: callers)
      (resumes : Resumes ⟨context.shared, caller, callers⟩ value next) : Passes host machine next

/-- What is left when the current program fails. -/
def aborted (machine : Machine) (error : ExecutionError) : Outcome where
  result := .error (machine.callers.foldl (fun error caller => .call error caller.location) error)
  shared := machine.shared
  scope := machine.rootScope

/-- How an execution ends when the result of the call at the current offset cannot be stored. -/
inductive Discards (machine : Machine) : Outcome → Prop where
  | fault {cause : Fault} {context : Context} (growth : machine.context.GrowsTo context)
      (ofOperand : cause.OfOperand) :
      Discards machine
        ((machine.withContext context).aborted (.fault cause (some machine.current.location)))

/-- The ways in which a step ends the execution. -/
inductive Closes (host : Host) (machine : Machine) : Outcome → Prop where
  | refuse {instruction : Instruction} {cause : Fault} {context : Context}
      (current : machine.current.instruction? = some instruction)
      (growth : machine.context.GrowsTo context)
      (refuses : instruction.Refuses host machine.current.depth machine.context cause) :
      Closes host machine
        ((machine.withContext context).aborted (.fault cause (some machine.current.location)))
  | notLinked {program : Program} {label : UInt64} {context linked : Context}
      {error : ExecutionError}
      (performs : machine.Performs host (.callLibrary program label) context)
      (links : program.link host none false context.shared = (.error error, linked)) :
      Closes host machine
        (aborted { machine.withContext context with shared := linked.shared }
          (.call error machine.current.location))
  | notEntered {program : Program} {label : UInt64} {context linked : Context} {cause : Fault}
      (performs : machine.Performs host (.callLibrary program label) context)
      (links : program.link host none false context.shared = (.ok (), linked))
      (entry : linked.scope.entryOffset (.label label) = .error cause) :
      Closes host machine
        (aborted { machine.withContext context with shared := linked.shared }
          (.call (.fault cause none) machine.current.location))
  | invoke {name : String} {id : NativeId} {function : NativeFunction} {arguments : List Value}
      {context : Context} {error : HostError} {memory : Memory}
      (invokes : machine.next host = (.ok (.callNative name id function arguments), context))
      (invoked : function arguments context.shared.memory = (.error error, memory)) :
      Closes host machine
        ((machine.withContext (context.withMemory memory)).aborted
          (.fault (.nativeCall name error) (some machine.current.location)))
  | discardInvoked {name : String} {id : NativeId} {function : NativeFunction}
      {arguments : List Value} {context : Context} {value : Value} {memory : Memory}
      {outcome : Outcome}
      (invokes : machine.next host = (.ok (.callNative name id function arguments), context))
      (invoked : function arguments context.shared.memory = (.ok value, memory))
      (discards : (machine.withContext (context.withMemory memory)).Discards outcome) :
      Closes host machine outcome
  | discardFromLabel {value : Value} {context : Context} {offset : Nat} {returns : List Nat}
      {outcome : Outcome} (performs : machine.Performs host (.ret value) context)
      (returns_eq : machine.current.returns = offset :: returns)
      (discards : ((machine.withContext context).leaveLabel offset returns).Discards outcome) :
      Closes host machine outcome
  | discardFromLibrary {value : Value} {context : Context} {caller : Activation}
      {callers : List Activation} {outcome : Outcome}
      (performs : machine.Performs host (.ret value) context)
      (returns_eq : machine.current.returns = []) (callers_eq : machine.callers = caller :: callers)
      (discards : Discards ⟨context.shared, caller, callers⟩ outcome) :
      Closes host machine outcome
  | finish {value : Value} {context : Context}
      (performs : machine.Performs host (.ret value) context)
      (returns_eq : machine.current.returns = []) (callers_eq : machine.callers = []) :
      Closes host machine ⟨.ok value, context.shared, (machine.withContext context).rootScope⟩

variable {host : Host} {machine next : Machine} {outcome : Outcome}

theorem performs_of_next {flow : Flow} {context : Context}
    (next_eq : machine.next host = (.ok flow, context)) : machine.Performs host flow context := by
  unfold Machine.next at next_eq
  split at next_eq
  · rename_i instruction current
    have acts := instruction.perform_acts host machine.current.depth machine.context
    obtain ⟨middle, effect, growth, does, rfl⟩ := acts.of_run_ok next_eq
    exact .instruction current growth does
  · rename_i current
    cases next_eq
    exact .fallOff current

/-- A fault of the next instruction is one of its refusals. -/
theorem refuses_of_next {cause : Fault} {context : Context}
    (next_eq : machine.next host = (.error cause, context)) :
    ∃ instruction, machine.current.instruction? = some instruction ∧
      machine.context.GrowsTo context ∧
      instruction.Refuses host machine.current.depth machine.context cause := by
  unfold Machine.next at next_eq
  split at next_eq
  · rename_i instruction current
    have acts := instruction.perform_acts host machine.current.depth machine.context
    obtain ⟨growth, refuses⟩ := acts.of_run_error next_eq
    exact ⟨instruction, current, growth, refuses⟩
  · cases next_eq

/-- A fault of the next instruction ends the execution there. -/
theorem step_of_next_error {cause : Fault} {context : Context}
    (next_eq : machine.next host = (.error cause, context)) :
    machine.step host = .finished
      ((machine.withContext context).aborted (.fault cause (some machine.current.location))) := by
  simp only [step, next_eq]
  rfl

theorem resumes_of_resume {value : Value} (resumed : machine.resume value = .running next) :
    machine.Resumes value next := by
  have acts := (machine.current.instruction.operand 0).acts_store value
    (.refl machine.context)
  unfold resume at resumed
  split at resumed
  · rename_i context run
    obtain ⟨middle, effect, growth, receives, rfl⟩ := acts.of_run_ok run
    cases resumed
    exact .store growth receives
  · cases resumed

theorem discards_of_resume {value : Value} (resumed : machine.resume value = .finished outcome) :
    machine.Discards outcome := by
  have acts := (machine.current.instruction.operand 0).acts_store value
    (.refl machine.context)
  unfold resume at resumed
  split at resumed
  · cases resumed
  · rename_i cause context run
    obtain ⟨growth, ofOperand⟩ := acts.of_run_error run
    cases resumed
    exact .fault growth ofOperand

/-- Every step that leaves a machine running is one of those listed. -/
theorem passes_of_step (stepped : machine.step host = .running next) :
    machine.Passes host next := by
  unfold step at stepped
  rcases next_eq : machine.next host with ⟨cause | flow, context⟩
  · rw [next_eq] at stepped
    cases stepped
  · rw [next_eq] at stepped
    have performs := performs_of_next next_eq
    cases flow with
    | next =>
        cases stepped
        exact .onward performs
    | jump offset =>
        cases stepped
        exact .jump performs
    | callLabel offset =>
        cases stepped
        exact .enterLabel performs
    | callLibrary program label =>
        simp only [enterLibrary] at stepped
        split at stepped
        · cases stepped
        · split at stepped
          · cases stepped
          · cases stepped
            exact .enterLibrary performs ‹_› ‹_›
    | callNative name id function arguments =>
        simp only [invoke] at stepped
        split at stepped
        · exact .invoke next_eq (Prod.ext ‹_› rfl) (resumes_of_resume stepped)
        · cases stepped
    | ret value =>
        simp only [giveBack] at stepped
        split at stepped
        · exact .leaveLabel performs ‹_› (resumes_of_resume stepped)
        · exact .leaveLibrary performs ‹_› ‹_› (resumes_of_resume stepped)
        · cases stepped

/-- Every step that ends an execution is one of those listed. -/
theorem closes_of_step (stepped : machine.step host = .finished outcome) :
    machine.Closes host outcome := by
  unfold step at stepped
  rcases next_eq : machine.next host with ⟨cause | flow, context⟩
  · rw [next_eq] at stepped
    obtain ⟨instruction, current, growth, refuses⟩ := refuses_of_next next_eq
    cases stepped
    exact .refuse current growth refuses
  · rw [next_eq] at stepped
    have performs := performs_of_next next_eq
    cases flow with
    | next | jump | callLabel => cases stepped
    | callLibrary program label =>
        simp only [enterLibrary] at stepped
        split at stepped
        · cases stepped
          exact .notLinked performs ‹_›
        · split at stepped
          · cases stepped
            exact .notEntered performs ‹_› ‹_›
          · cases stepped
    | callNative name id function arguments =>
        simp only [invoke] at stepped
        split at stepped
        · exact .discardInvoked next_eq (Prod.ext ‹_› rfl) (discards_of_resume stepped)
        · cases stepped
          exact .invoke next_eq (Prod.ext ‹_› rfl)
    | ret value =>
        simp only [giveBack] at stepped
        split at stepped
        · exact .discardFromLabel performs ‹_› (discards_of_resume stepped)
        · exact .discardFromLibrary performs ‹_› ‹_› (discards_of_resume stepped)
        · cases stepped
          exact .finish performs ‹_› ‹_›

end Machine

end ScriptMachine
