import ScriptMachine.Decimal.Shortest
import ScriptMachine.Instruction.Basic
import ScriptMachine.Text.Quoted

/-!
# Assembly text

How instructions are shown in error locations: a mnemonic, a space, and the operands
separated by commas.  The kind of an operand is told by its first character.
-/

namespace ScriptMachine

/-- The mnemonic of an opcode. -/
def Opcode.mnemonic : Opcode → String
  | .nop => "nop"
  | .move => "mov"
  | .makePointer => "ptr"
  | .loadAddress => "lea"
  | .truncate => "trunc"
  | .fraction => "frac"
  | .newList => "list"
  | .setListSlot => "setl"
  | .listSlotAddress => "leal"
  | .indexOf => "idx"
  | .join => "join"
  | .count => "cnt"
  | .newObject => "obj"
  | .keysAddress => "leak"
  | .valuesAddress => "leav"
  | .add => "add"
  | .subtract => "sub"
  | .multiply => "mul"
  | .divide => "div"
  | .not => "not"
  | .and => "and"
  | .or => "or"
  | .xor => "xor"
  | .equal => "eq"
  | .greaterThan => "gt"
  | .lessThan => "lt"
  | .label => "label"
  | .jump => "jmp"
  | .jumpIfTrue => "jmpt"
  | .call => "call"
  | .ret => "ret"

/-- The words for numbers without digits in programs. -/
def programNumberWords : NumberWords := ⟨"inf", "NaN"⟩

/-- A literal as it stands in an instruction. -/
def Literal.assembly : Literal → String
  | .none => "none"
  | .number value => value.text programNumberWords
  | .text value => quoted value

/-- An operand as it stands in an instruction. -/
def Operand.assembly : Operand → String
  | .none => "_"
  | .literal value => value.assembly
  | .label index => "@" ++ toString index.toNat
  | .register index => "#" ++ toString index.toNat
  | .variable index => "$" ++ toString index.toNat
  | .rawAddress raw => "[" ++ toString raw.toInt ++ "]"

/-- An instruction with all operands of its list. -/
def Instruction.assembly (instruction : Instruction) : String :=
  match instruction.operands with
  | [] => instruction.opcode.mnemonic
  | operands =>
      instruction.opcode.mnemonic ++ " " ++ ", ".intercalate (operands.map Operand.assembly)

end ScriptMachine
