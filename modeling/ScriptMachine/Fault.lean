import ScriptMachine.Files.Basic
import ScriptMachine.Instruction.Assembly
import ScriptMachine.Program.Basic
import ScriptMachine.Value.Conversion

/-!
# Faults and errors

A `Fault` is the cause of a failure.  An `ExecutionError` adds where it happened: the
instruction that raised it, if one did, and, for each library call that was under way,
the instruction that made the call.  Calls of labels leave no trace in an error.

The wording of all messages is in this file.
-/

namespace ScriptMachine

/-- Where an execution begins. -/
inductive Entry where
  /-- At the exported function of a name. -/
  | function (name : String)
  /-- At a label. -/
  | label (index : UInt64)
  deriving DecidableEq

/-- The entry as messages show it. -/
def Entry.text : Entry → String
  | .function name => name
  | .label index => "@" ++ toString index.toNat

/-- The failure of a host function: its message, and those of its causes from the
nearest to the last. -/
structure HostError where
  message : String
  causes : List String
  deriving DecidableEq

/-- Why a library cannot be loaded. -/
inductive LoadFailure where
  | unreadable (failure : ReadFailure)
  /-- The text is no program, for the reason that the reader gives. -/
  | undecodable (reason : String)
  deriving DecidableEq

/-- The reason for a failure as messages state it. -/
def LoadFailure.message : LoadFailure → String
  | .unreadable failure => failure.message
  | .undecodable reason => reason

/-- The causes of failures. -/
inductive Fault where
  /-- An imported module is not registered, or an imported library is nowhere found. -/
  | unresolvedImport (unit : ImportedUnit)
  | invalidLibrary (path : Path) (failure : LoadFailure)
  | missingEntryPoint (entry : Entry)
  | typeMismatch (mismatch : Mismatch)
  /-- The operand is of a kind that its place does not admit. -/
  | unsupportedOperand (operand : Operand)
  | unboundVariable (index : UInt64)
  /-- The label is not declared, or is declared and nowhere marked. -/
  | unboundLabel (index : UInt64)
  | unknownFunction (name : String)
  | unknownNativeFunction (id : NativeId)
  | unknownLibrary (index : Nat)
  | keyNotFound (key : String)
  | invalidListIndex (index : Int32)
  /-- A host function, here by the name it was called by, has failed. -/
  | nativeCall (function : String) (error : HostError)
  | stackOverflow
  deriving DecidableEq

/-- The groups of faults. -/
inductive FaultKind where
  | link
  | missingEntryPoint
  | typeMismatch
  | lookup
  | call
  deriving DecidableEq

/-- The name of a group. -/
def FaultKind.name : FaultKind → String
  | .link => "link"
  | .missingEntryPoint => "missing_entry_point"
  | .typeMismatch => "type_mismatch"
  | .lookup => "lookup"
  | .call => "call"

namespace Fault

/-- The group of a fault. -/
def kind : Fault → FaultKind
  | .unresolvedImport _ | .invalidLibrary .. => .link
  | .missingEntryPoint _ => .missingEntryPoint
  | .typeMismatch _ | .unsupportedOperand _ => .typeMismatch
  | .unboundVariable _ | .unboundLabel _ | .unknownFunction _ | .unknownNativeFunction _
  | .unknownLibrary _ | .keyNotFound _ | .invalidListIndex _ => .lookup
  | .nativeCall .. | .stackOverflow => .call

/-- The message of a fault. -/
def message : Fault → String
  | .unresolvedImport ⟨.nativeModule, name⟩ => s!"native module `{name}` is not registered"
  | .unresolvedImport ⟨.library, name⟩ => s!"library `{name}` was not found"
  | .invalidLibrary path failure =>
      s!"library {path.text} could not be loaded: {failure.message}"
  | .missingEntryPoint entry => s!"entry point `{entry.text}` not found"
  | .typeMismatch mismatch =>
      s!"{mismatch.actual.name} does not support conversion to {mismatch.conversion.name}"
  | .unsupportedOperand operand => s!"unsupported operand `{operand.assembly}`"
  | .unboundVariable index => s!"variable ${index.toNat} is not bound"
  | .unboundLabel index => s!"label @{index.toNat} is not bound"
  | .unknownFunction name => s!"function `{name}` is not registered"
  | .unknownNativeFunction id => s!"native function #{id.index} is not registered"
  | .unknownLibrary index => s!"library #{index} is not loaded"
  | .keyNotFound key => s!"key `{key}` not found"
  | .invalidListIndex index => s!"invalid list index {index.toInt}"
  | .nativeCall function error => s!"`{function}` failed: {error.message}"
  | .stackOverflow => "maximum call depth exceeded"

/-- The messages of what a fault came from. -/
def causes : Fault → List String
  | .nativeCall _ error => error.message :: error.causes
  | _ => []

end Fault

/-- An instruction of a program, as errors report it. -/
structure Location where
  offset : Nat
  line : Option UInt64
  instruction : String
  deriving DecidableEq

namespace Location

/-- The location of an instruction. -/
def ofInstruction (offset : Nat) (instruction : Instruction) : Location :=
  ⟨offset, instruction.line, instruction.assembly⟩

/-- The location as messages show it. -/
def text (location : Location) : String :=
  let line :=
    match location.line with
    | some line => s!"line {line.toNat}, "
    | none => ""
  s!"{line}offset {location.offset}: {location.instruction}"

end Location

/-- The failure of an execution. -/
inductive ExecutionError where
  /-- A fault, at an instruction if one raised it. -/
  | fault (cause : Fault) (location : Option Location)
  /-- The failure of a library function that the instruction at `location` called. -/
  | call (inner : ExecutionError) (location : Location)
  deriving DecidableEq

namespace ExecutionError

/-- The fault at the bottom of all calls. -/
def rootFault : ExecutionError → Fault
  | .fault cause _ => cause
  | .call inner _ => inner.rootFault

/-- The group of an error. -/
def kind : ExecutionError → FaultKind
  | .fault cause _ => cause.kind
  | .call .. => .call

/-- The instruction at which an error arose. -/
def location? : ExecutionError → Option Location
  | .fault _ location => location
  | .call _ location => some location

/-- The message of an error. -/
def message : ExecutionError → String
  | .fault cause none => cause.message
  | .fault cause (some location) => s!"{cause.message} ({location.text})"
  | .call inner location => s!"call failed: {inner.message} ({location.text})"

/-- The messages of what an error came from, from the nearest to the last. -/
def causes : ExecutionError → List String
  | .fault cause _ => cause.causes
  | .call inner _ => inner.message :: inner.causes

end ExecutionError

end ScriptMachine
