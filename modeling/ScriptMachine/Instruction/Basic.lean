import ScriptMachine.Binary64.Basic

/-!
# Instructions

An instruction is an opcode with a list of operands and the source line it was compiled
from, if that is known.  Instructions take at most three operands; what is missing
from the list reads as `Operand.none`, so lists that differ in final absent operands
mean the same.

Literals hold numbers, so there are two equalities: `=` is identity of data, while
`equal` compares numbers as numbers do, by which `nan` differs from itself.
-/

namespace ScriptMachine

/-- A value that is written in a program. -/
inductive Literal where
  | none
  | number (value : Binary64)
  | text (value : String)
  deriving DecidableEq, Inhabited

namespace Literal

/-- Equality of literals, with numbers compared as numbers. -/
def equal : Literal → Literal → Bool
  | .none, .none => true
  | .number left, .number right => left.equal right
  | .text left, .text right => left == right
  | _, _ => false

end Literal

/-- What an instruction acts on. -/
inductive Operand where
  /-- No operand. -/
  | none
  /-- A value written in the instruction. -/
  | literal (value : Literal)
  /-- A label, by its index in the program's label table. -/
  | label (index : UInt64)
  /-- A register. -/
  | register (index : UInt8)
  /-- The cell to which a variable is bound. -/
  | variable (index : UInt64)
  /-- A cell by its address; zero and negative addresses are null. -/
  | rawAddress (raw : Int64)
  deriving DecidableEq, Inhabited

namespace Operand

/-- Equality of operands, with numbers compared as numbers. -/
def equal : Operand → Operand → Bool
  | .literal left, .literal right => left.equal right
  | .literal _, _ => false
  | _, .literal _ => false
  | left, right => left == right

end Operand

/-- What an instruction does.  The first operand is the one that is written. -/
inductive Opcode where
  /-- Does nothing. -/
  | nop
  /-- Copies a value. -/
  | move
  /-- Binds a variable to the address that is given, or to a new cell. -/
  | makePointer
  /-- The address of a variable's cell. -/
  | loadAddress
  /-- The integer part of a number. -/
  | truncate
  /-- What a number has above its floor. -/
  | fraction
  /-- A new empty list. -/
  | newList
  /-- Stores an address in a list. -/
  | setListSlot
  /-- The address of a list's cell, or the one that is stored at an index of it. -/
  | listSlotAddress
  /-- Where in a list a text stands, or `-1`. -/
  | indexOf
  /-- The texts of a list, put together. -/
  | join
  /-- The number of entries or of characters. -/
  | count
  /-- A new empty object. -/
  | newObject
  /-- The address of an object's list of keys. -/
  | keysAddress
  /-- The address of an object's list of values. -/
  | valuesAddress
  /-- Adds to the first operand. -/
  | add
  /-- Subtracts from the first operand. -/
  | subtract
  /-- Multiplies the first operand. -/
  | multiply
  /-- Divides the first operand. -/
  | divide
  /-- Whether the first operand is at most zero. -/
  | not
  /-- The common bits of two integers. -/
  | and
  /-- The bits of either of two integers. -/
  | or
  /-- The bits of exactly one of two integers. -/
  | xor
  /-- Whether two operands are equal. -/
  | equal
  /-- Whether one number is above another. -/
  | greaterThan
  /-- Whether one number is below another. -/
  | lessThan
  /-- Marks the place of a label. -/
  | label
  /-- Continues at a label. -/
  | jump
  /-- Continues at a label if a number is greater than zero. -/
  | jumpIfTrue
  /-- Calls a label or a function and stores what it returns. -/
  | call
  /-- Ends the call with a value. -/
  | ret
  deriving DecidableEq, Inhabited

/-- An opcode with its operands. -/
structure Instruction where
  opcode : Opcode
  operands : List Operand
  line : Option UInt64
  deriving DecidableEq, Inhabited

namespace Instruction

/-- The operand at an index; what is missing is `Operand.none`. -/
def operand (instruction : Instruction) (index : Nat) : Operand :=
  instruction.operands[index]?.getD .none

/-- Operands without the absent ones at the end. -/
def trimOperands (operands : List Operand) : List Operand :=
  (operands.reverse.dropWhile (· = .none)).reverse

/-- An instruction without a source line, and without absent operands at its end. -/
def make (opcode : Opcode) (operands : List Operand) : Instruction :=
  ⟨opcode, trimOperands operands, none⟩

/-- Equality of instructions, with numbers compared as numbers. -/
def equal (left right : Instruction) : Bool :=
  left.opcode == right.opcode &&
    left.operands.isEqv right.operands Operand.equal &&
    left.line == right.line

end Instruction

end ScriptMachine
