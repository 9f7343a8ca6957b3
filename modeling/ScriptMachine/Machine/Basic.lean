import ScriptMachine.Machine.Link
import ScriptMachine.Machine.Perform

/-!
# The machine

The machine runs one program at a time.  Its `current` activation knows the program, its
scope and the offset of the next instruction, and the offsets of the label calls that wait
for it.  A call of a library function suspends the activation among the `callers` and
links the library's program in a scope of its own.

`Machine.step` performs one instruction or ends the program that has no more.  A run is a
number of steps; `Machine.run` tells a machine that has not finished apart from one that
has.
-/

namespace ScriptMachine

/-- A program in execution. -/
structure Activation where
  program : Program
  scope : Scope
  /-- The depth of calls, in this program and around it. -/
  depth : Nat
  /-- The offset of the next instruction, or of the call that is going on. -/
  offset : Nat
  /-- The offsets of the label calls that are going on, from the innermost. -/
  returns : List Nat

namespace Activation

/-- The instruction at the current offset. -/
def instruction? (activation : Activation) : Option Instruction :=
  activation.program.instructions[activation.offset]?

/-- The instruction at the current offset; there are only empty ones past the end. -/
def instruction (activation : Activation) : Instruction :=
  activation.instruction?.getD ⟨.nop, [], none⟩

/-- Where the activation is. -/
def location (activation : Activation) : Location :=
  .ofInstruction activation.offset activation.instruction

end Activation

/-- A machine between two steps. -/
structure Machine where
  shared : SharedState
  current : Activation
  /-- The activations that wait for a library function, from the innermost. -/
  callers : List Activation

/-- How an execution has ended, and what it leaves behind. -/
structure Outcome where
  result : Except ExecutionError Value
  shared : SharedState
  /-- The scope of the program with which the execution began. -/
  scope : Scope

/-- A machine that goes on or has ended. -/
inductive Status where
  | running (machine : Machine)
  | finished (outcome : Outcome)

namespace Machine

/-- The scope of the program with which the execution began. -/
def rootScope (machine : Machine) : Scope :=
  (machine.callers.getLast?.getD machine.current).scope

/-- What the current program works on. -/
def context (machine : Machine) : Context :=
  ⟨machine.shared, machine.current.scope⟩

/-- The machine after work of the current program. -/
def withContext (machine : Machine) (context : Context) : Machine :=
  { machine with
    shared := context.shared
    current.scope := context.scope }

/-- The machine with the current program at an offset. -/
def goTo (machine : Machine) (offset : Nat) : Machine :=
  { machine with current.offset := offset }

/-- The end of an execution by an error of the current program, which becomes the error of
every call that waits for it. -/
def abort (machine : Machine) (error : ExecutionError) : Status :=
  .finished
    { result := .error
        (machine.callers.foldl (fun error caller => .call error caller.location) error)
      shared := machine.shared
      scope := machine.rootScope }

/-- The end of an execution by a fault of the current instruction. -/
def fault (machine : Machine) (cause : Fault) : Status :=
  machine.abort (.fault cause (some machine.current.location))

/-- Stores the result of the call at the current offset, and goes on behind it. -/
def resume (machine : Machine) (value : Value) : Status :=
  match (machine.current.instruction.operand 0 |>.store value).run machine.context with
  | (.ok (), context) =>
      .running ((machine.withContext context).goTo (machine.current.offset + 1))
  | (.error cause, context) => (machine.withContext context).fault cause

/-- Ends the innermost call, or the execution if there is none. -/
def giveBack (machine : Machine) (value : Value) : Status :=
  match machine.current.returns, machine.callers with
  | offset :: returns, _ =>
      resume
        { machine with
          current.offset := offset
          current.returns := returns
          current.depth := machine.current.depth - 1 }
        value
  | [], caller :: callers =>
      resume { shared := machine.shared, current := caller, callers := callers } value
  | [], [] => .finished ⟨.ok value, machine.shared, machine.rootScope⟩

/-- Calls a label. -/
def enterLabel (machine : Machine) (offset : Nat) : Machine :=
  { machine with
    current.offset := offset
    current.returns := machine.current.offset :: machine.current.returns
    current.depth := machine.current.depth + 1 }

/-- Calls a function of a library: links its program and begins at the function's
label. -/
def enterLibrary (machine : Machine) (host : Host) (program : Program) (label : UInt64) :
    Status :=
  let failed (shared : SharedState) (error : ExecutionError) : Status :=
    { machine with shared := shared }.abort (.call error machine.current.location)
  match program.link host none false machine.shared with
  | (.error error, linked) => failed linked.shared error
  | (.ok (), linked) =>
      match linked.scope.entryOffset (.label label) with
      | .error cause => failed linked.shared (.fault cause none)
      | .ok offset =>
          .running
            { shared := linked.shared
              current := ⟨program, linked.scope, machine.current.depth + 1, offset, []⟩
              callers := machine.current :: machine.callers }

/-- Calls a function of the host. -/
def invoke (machine : Machine) (name : String) (function : NativeFunction)
    (arguments : List Value) : Status :=
  let (result, memory) := function arguments machine.shared.memory
  let after := { machine with shared.memory := memory }
  match result with
  | .ok value => after.resume value
  | .error error => after.fault (.nativeCall name error)

/-- What the next instruction asks for, and the context that it leaves.  A program without
further instructions returns zero. -/
def next (machine : Machine) (host : Host) : Except Fault Flow × Context :=
  match machine.current.instruction? with
  | some instruction =>
      (instruction.perform host machine.current.depth).run machine.context
  | none => (.ok (.ret (.number .zero)), machine.context)

/-- Performs the next instruction. -/
def step (machine : Machine) (host : Host) : Status :=
  let (flow, context) := machine.next host
  let after := machine.withContext context
  match flow with
  | .error cause => after.fault cause
  | .ok .next => .running (after.goTo (machine.current.offset + 1))
  | .ok (.jump offset) => .running (after.goTo offset)
  | .ok (.callLabel offset) => .running (after.enterLabel offset)
  | .ok (.callLibrary program label) => after.enterLibrary host program label
  | .ok (.callNative name _ function arguments) => after.invoke name function arguments
  | .ok (.ret value) => after.giveBack value

/-- Makes at most a number of steps, and lets an observer see the machine before each. -/
def runObserved {α : Type} (host : Host) (observe : α → Machine → α) :
    (steps : Nat) → α → Machine → α × Status
  | 0, seen, machine => (seen, .running machine)
  | steps + 1, seen, machine =>
      let seen := observe seen machine
      match machine.step host with
      | .running machine => runObserved host observe steps seen machine
      | .finished outcome => (seen, .finished outcome)

/-- Makes at most a number of steps. -/
def run (host : Host) : (steps : Nat) → Machine → Status
  | 0, machine => .running machine
  | steps + 1, machine =>
      match machine.step host with
      | .running machine => run host steps machine
      | .finished outcome => .finished outcome

end Machine

end ScriptMachine
