import ScriptMachine.Program.Basic
import ScriptMachine.Storage.Schema

/-!
# The schemas of programs

How programs and their parts are stored: structures are records of their fields, and types with
alternatives are choices.  An index or address is stored as its number.  A program that is read
has no instructions or declarations of a kind if the field for them is missing, and an instruction
has no operands or no line.

A program is written and read in any format that has these schemas.
-/

namespace ScriptMachine

/-! ## Literals and operands -/

/-- How literals are stored. -/
def Literal.schema : Schema Literal :=
  .choice <|
    .unit ⟨"None", by decide⟩ .none <|
    .marked ⟨"Number", by decide⟩ .number .number
      (fun | .number value => some value | _ => .none) <|
    .marked ⟨"Text", by decide⟩ .text .text
      (fun | .text value => some value | _ => .none)
    .done

/-- How operands are stored. -/
def Operand.schema : Schema Operand :=
  .choice <|
    .unit ⟨"None", by decide⟩ .none <|
    .marked ⟨"Literal", by decide⟩ Literal.schema .literal
      (fun | .literal value => some value | _ => .none) <|
    .marked ⟨"Label", by decide⟩ .word64 .label
      (fun | .label index => some index | _ => .none) <|
    .marked ⟨"Register", by decide⟩ .octet .register
      (fun | .register index => some index | _ => .none) <|
    .marked ⟨"Variable", by decide⟩ .word64 .variable
      (fun | .variable index => some index | _ => .none) <|
    .marked ⟨"RawAddress", by decide⟩ .signed64 .rawAddress
      (fun | .rawAddress raw => some raw | _ => .none)
    .done

/-! ## Instructions -/

namespace Opcode

/-- All opcodes. -/
def all : List Opcode :=
  [.nop, .move, .makePointer, .loadAddress, .truncate, .fraction, .newList, .setListSlot,
    .listSlotAddress, .indexOf, .join, .count, .newObject, .keysAddress, .valuesAddress,
    .add, .subtract, .multiply, .divide, .not, .and, .or, .xor, .equal, .greaterThan,
    .lessThan, .label, .jump, .jumpIfTrue, .call, .ret]

/-- The name of an opcode in stored programs. -/
def name : Opcode → String
  | .nop => "Nop"
  | .move => "Move"
  | .makePointer => "MakePointer"
  | .loadAddress => "LoadAddress"
  | .truncate => "Truncate"
  | .fraction => "Fraction"
  | .newList => "NewList"
  | .setListSlot => "SetListSlot"
  | .listSlotAddress => "GetListSlotAddress"
  | .indexOf => "IndexOf"
  | .join => "Join"
  | .count => "Count"
  | .newObject => "NewObject"
  | .keysAddress => "GetKeysAddress"
  | .valuesAddress => "GetValuesAddress"
  | .add => "Add"
  | .subtract => "Sub"
  | .multiply => "Mul"
  | .divide => "Div"
  | .not => "Not"
  | .and => "And"
  | .or => "Or"
  | .xor => "Xor"
  | .equal => "Equal"
  | .greaterThan => "GreaterThan"
  | .lessThan => "LessThan"
  | .label => "Label"
  | .jump => "Jump"
  | .jumpIfTrue => "JumpIfTrue"
  | .call => "Call"
  | .ret => "Return"

theorem isPlain_name (opcode : Opcode) : isPlainName opcode.name = true := by
  cases opcode <;> decide

/-- How opcodes are stored. -/
def schema : Schema Opcode :=
  .choice (.ofUnits (fun opcode => ⟨opcode.name, opcode.isPlain_name⟩) all)

end Opcode

/-- How instructions are stored. -/
def Instruction.schema : Schema Instruction :=
  .record ⟨"Instruction", by decide⟩
    (.field ⟨"opcode", by decide⟩ none Opcode.schema <|
      .field ⟨"operands", by decide⟩ (some []) (.list Operand.schema) <|
      .field ⟨"line", by decide⟩ (some none) (.option .word64) .done)
    (fun instruction => (instruction.opcode, instruction.operands, instruction.line, ()))
    (fun (opcode, operands, line, ()) => ⟨opcode, operands, line⟩)

/-! ## Declarations -/

namespace Visibility

/-- The name of a visibility in stored programs. -/
def name : Visibility → String
  | .hidden => "Private"
  | .exported => "Public"

theorem isPlain_name (visibility : Visibility) : isPlainName visibility.name = true := by
  cases visibility <;> decide

/-- How visibilities are stored. -/
def schema : Schema Visibility :=
  .choice (.ofUnits (fun visibility => ⟨visibility.name, visibility.isPlain_name⟩)
    [hidden, exported])

end Visibility

namespace ImportKind

/-- The name of a kind of import in stored programs. -/
def name : ImportKind → String
  | .nativeModule => "NativeModule"
  | .library => "Library"

theorem isPlain_name (kind : ImportKind) : isPlainName kind.name = true := by
  cases kind <;> decide

/-- How kinds of imports are stored. -/
def schema : Schema ImportKind :=
  .choice (.ofUnits (fun kind => ⟨kind.name, kind.isPlain_name⟩) [nativeModule, library])

end ImportKind

/-- How imports are stored. -/
def ImportedUnit.schema : Schema ImportedUnit :=
  .record ⟨"Import", by decide⟩
    (.field ⟨"kind", by decide⟩ none ImportKind.schema <|
      .field ⟨"name", by decide⟩ none .text .done)
    (fun unit => (unit.kind, unit.name, ()))
    (fun (kind, name, ()) => ⟨kind, name⟩)

/-- How constants are stored. -/
def ConstantDefinition.schema : Schema ConstantDefinition :=
  .record ⟨"Constant", by decide⟩
    (.field ⟨"index", by decide⟩ none .word64 <|
      .field ⟨"value", by decide⟩ none Literal.schema .done)
    (fun constant => (constant.index, constant.value, ()))
    (fun (index, value, ()) => ⟨index, value⟩)

/-- The fields of what is declared under an index, with a name and a visibility. -/
def declarationFields : Fields (UInt64 × String × Visibility × Unit) :=
  .field ⟨"index", by decide⟩ none .word64 <|
    .field ⟨"name", by decide⟩ none .text <|
    .field ⟨"access", by decide⟩ none Visibility.schema .done

/-- How variables are stored. -/
def VariableDefinition.schema : Schema VariableDefinition :=
  .record ⟨"VariableDefinition", by decide⟩ declarationFields
    (fun definition => (definition.index, definition.name, definition.visibility, ()))
    (fun (index, name, visibility, ()) => ⟨index, name, visibility⟩)

/-- How functions are stored. -/
def FunctionDefinition.schema : Schema FunctionDefinition :=
  .record ⟨"FunctionDefinition", by decide⟩ declarationFields
    (fun definition => (definition.index, definition.name, definition.visibility, ()))
    (fun (index, name, visibility, ()) => ⟨index, name, visibility⟩)

/-! ## Programs -/

namespace Program

/-- How programs are stored. -/
def schema : Schema Program :=
  .record ⟨"Program", by decide⟩
    (.field ⟨"imports", by decide⟩ (some []) (.list ImportedUnit.schema) <|
      .field ⟨"constants", by decide⟩ (some []) (.list ConstantDefinition.schema) <|
      .field ⟨"variables", by decide⟩ (some []) (.list VariableDefinition.schema) <|
      .field ⟨"functions", by decide⟩ (some []) (.list FunctionDefinition.schema) <|
      .field ⟨"instructions", by decide⟩ (some []) (.list Instruction.schema) .done)
    (fun program => (program.imports, program.constants, program.vars, program.functions,
      program.instructions.toList, ()))
    (fun (imports, constants, vars, functions, instructions, ()) =>
      ⟨imports, constants, vars, functions, instructions.toArray⟩)

/-- The text in which a program is stored. -/
def encode (format : DataFormat) (program : Program) : String := format.write schema program

/-- Reads the text in which a program is stored. -/
def decode (format : DataFormat) : ProgramReader := format.read schema

end Program

end ScriptMachine
