import ScriptMachine.Machine.Host
import ScriptMachine.Machine.SharedState
import ScriptMachine.Memory.Lists

/-!
# Linking

Before a program runs, its imports are resolved, its constants and variables get cells and
its labels get offsets.  Names are registered first for the functions of the host, then for
the modules that are imported and last for all loaded libraries, and the first
registration counts.

A variable index that is declared twice is bound to the last cell made for it; a label
that is marked twice is at its last mark.  What linking has done before it fails is not
undone.
-/

namespace ScriptMachine

/-! ## Imports -/

namespace SharedState

/-- Registers host functions. -/
def registerNatives (entries : List (String × NativeId)) : Task SharedState Unit :=
  modify fun shared =>
    { shared with
      registry := shared.registry.registerAll
        (entries.map fun (name, id) => (name, .native id)) }

/-- Registers the functions of an imported module. -/
def importModule (host : Host) (unit : ImportedUnit) : Task SharedState Unit :=
  match host.module? unit.name with
  | some entries => registerNatives entries
  | none => throw (.unresolvedImport unit)

/-- Loads an imported library. -/
def importLibrary (host : Host) (unit : ImportedUnit) : Task SharedState Unit :=
  match locateLibrary? host.files host.searchPaths unit.name with
  | some path =>
      Task.within (fun shared : SharedState => shared.libraries)
        (fun libraries shared => { shared with libraries := libraries })
        (do let _ ← Libraries.load host.reader host.files path)
  | none => throw (.unresolvedImport unit)

/-- Registers the functions of all loaded libraries. -/
def registerExports : Task SharedState Unit :=
  modify fun shared =>
    { shared with
      registry := shared.registry.registerAll
        (shared.libraries.exports.map fun (name, reference) => (name, .library reference)) }

/-- Resolves the imports of a program. -/
def linkImports (host : Host) (program : Program) : Task SharedState Unit := do
  registerNatives host.functions
  (program.imports.filter fun unit => unit.kind = .nativeModule).forM (importModule host)
  (program.imports.filter fun unit => unit.kind = .library).forM (importLibrary host)
  registerExports

end SharedState

/-! ## Declarations -/

namespace Program

/-- Puts constants into new cells and binds their indices. -/
def bindConstants (memory : Memory) (vars : Variables) :
    List ConstantDefinition → Memory × Variables
  | [] => (memory, vars)
  | constant :: rest =>
      let (address, memory) := memory.allocate (.ofLiteral constant.value)
      bindConstants memory
        (vars.set constant.index.toNat (.anonymous (some address))) rest

/-- Makes empty cells for variables and binds their indices. -/
def bindVariables (memory : Memory) (vars : Variables) :
    List VariableDefinition → Memory × Variables
  | [] => (memory, vars)
  | definition :: rest =>
      let (address, memory) := memory.allocate .none
      bindVariables memory
        (vars.set definition.index.toNat
          ⟨definition.name, definition.visibility, some address⟩)
        rest

/-- The labels that functions declare, none of them marked yet. -/
def declareLabels (labels : Labels) (functions : List FunctionDefinition) : Labels :=
  functions.foldl
    (fun labels function =>
      labels.set function.index.toNat ⟨function.name, function.visibility, none⟩)
    labels

/-- Marks a label at an offset; a label that is not declared has no name. -/
def markLabel (labels : Labels) (index offset : Nat) : Labels :=
  match labels.get? index with
  | some binding => labels.set index { binding with target := some offset }
  | none => labels.set index (.anonymous (some offset))

/-- Marks the labels of instructions, the first of which is at an offset.  Marking ends at
a mark that names no label. -/
def markLabels (labels : Labels) (offset : Nat) :
    List Instruction → Except ExecutionError Unit × Labels
  | [] => (.ok (), labels)
  | instruction :: rest =>
      if instruction.opcode = .label then
        match instruction.operand 0 with
        | .label index => markLabels (markLabel labels index.toNat offset) (offset + 1) rest
        | operand =>
            (.error (.fault (.unsupportedOperand operand)
              (some (.ofInstruction offset instruction))), labels)
      else markLabels labels (offset + 1) rest

end Program

/-- Puts arguments into a new list, whose address goes to register zero. -/
def SharedState.passArguments (shared : SharedState) (arguments : List Value) : SharedState :=
  let (handle, memory) := shared.memory.newListOf arguments
  let (address, memory) := memory.allocate (.list handle)
  { shared with
    memory := memory
    registers := shared.registers.set 0 address.toRaw }

/-- Binds the declarations of a program in a new scope. -/
def Program.declare (program : Program) (shared : SharedState) :
    Except ExecutionError Unit × Context :=
  let (memory, vars) := bindConstants shared.memory .empty program.constants
  let (memory, vars) := bindVariables memory vars program.vars
  let (marked, labels) :=
    markLabels (declareLabels .empty program.functions) 0 program.instructions.toList
  (marked, ⟨{ shared with memory := memory }, ⟨vars, labels⟩⟩)

/-- Links a program, from a shared state that is reset first when `fresh`, and passes it
arguments if there are any. -/
def Program.link (program : Program) (host : Host) (arguments : Option (List Value))
    (fresh : Bool) (shared : SharedState) : Except ExecutionError Unit × Context :=
  let start := if fresh then shared.reset else shared
  match (SharedState.linkImports host program).run start with
  | (.error fault, shared) => (.error (.fault fault none), ⟨shared, .empty⟩)
  | (.ok (), shared) =>
      match program.declare shared with
      | (.error error, context) => (.error error, context)
      | (.ok (), context) =>
          match arguments with
          | none => (.ok (), context)
          | some values =>
              (.ok (), { context with shared := context.shared.passArguments values })

/-- The offset at which an execution begins. -/
def Scope.entryOffset (scope : Scope) (entry : Entry) : Except Fault Nat :=
  let index :=
    match entry with
    | .function name => scope.labels.resolve? name
    | .label index => some index.toNat
  match (index.bind scope.labels.get?).bind Binding.target with
  | some offset => .ok offset
  | none => .error (.missingEntryPoint entry)

end ScriptMachine
