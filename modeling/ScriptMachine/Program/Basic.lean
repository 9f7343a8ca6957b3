import ScriptMachine.Instruction.Basic

/-!
# Programs

A program is a list of instructions with the tables that a machine needs to link it:
what it imports, the constants and variables it declares and the labels that are its
functions.  Indices into these tables are machine words, and nothing prevents a
program from declaring an index twice.
-/

namespace ScriptMachine

/-- Who can see a declaration. -/
inductive Visibility where
  /-- Its own program. -/
  | hidden
  /-- Hosts, and programs that import this one. -/
  | exported
  deriving DecidableEq, Inhabited

/-- What is imported. -/
inductive ImportKind where
  /-- Functions that the host has registered as a module. -/
  | nativeModule
  /-- A program that is loaded from a file. -/
  | library
  deriving DecidableEq, Inhabited

/-- A module or library that a program depends on. -/
structure ImportedUnit where
  kind : ImportKind
  name : String
  deriving DecidableEq, Inhabited

/-- A value that a variable index is bound to when the program is linked. -/
structure ConstantDefinition where
  index : UInt64
  value : Literal
  deriving DecidableEq, Inhabited

/-- A variable with a cell of its own. -/
structure VariableDefinition where
  index : UInt64
  name : String
  visibility : Visibility
  deriving DecidableEq, Inhabited

/-- A label with a name. -/
structure FunctionDefinition where
  index : UInt64
  name : String
  visibility : Visibility
  deriving DecidableEq, Inhabited

/-- A program as a machine links and runs it. -/
structure Program where
  imports : List ImportedUnit
  constants : List ConstantDefinition
  vars : List VariableDefinition
  functions : List FunctionDefinition
  instructions : Array Instruction
  deriving DecidableEq

namespace Program

/-- The program that declares nothing and does nothing. -/
def empty : Program := ⟨[], [], [], [], #[]⟩

instance : Inhabited Program := ⟨empty⟩

/-- The names of the functions that other programs can call, with their labels. -/
def exports (program : Program) : List (String × UInt64) :=
  (program.functions.filter fun function => function.visibility = .exported).map
    fun function => (function.name, function.index)

/-- Equality of programs, with numbers compared as numbers. -/
def equal (left right : Program) : Bool :=
  left.imports == right.imports &&
    left.constants.isEqv right.constants
      (fun first second => first.index == second.index && first.value.equal second.value) &&
    left.vars == right.vars &&
    left.functions == right.functions &&
    left.instructions.isEqv right.instructions Instruction.equal

end Program

/-- Reads the text in which a program is stored, or tells why it is none. -/
abbrev ProgramReader := String → Except String Program

/-- The reader for which no text is a program. -/
def ProgramReader.refusing : ProgramReader := fun _ => .error "no programs can be read"

end ScriptMachine
