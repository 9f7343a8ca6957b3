import ScriptMachine.Machine.SharedState
import ScriptMachine.Task
import ScriptMachine.Value.Conversion

/-!
# Operands in a context

What an operand gives when it is loaded, where a value goes that is stored to it, and
which address or offset it stands for.  Null addresses load as empty values and drop what
is stored to them.
-/

namespace ScriptMachine

namespace Operand

/-- The address to which a variable is bound. -/
def variableAddress (index : UInt64) : Task Context (Option Address) := do
  match (← get).scope.vars.get? index.toNat with
  | some binding => return binding.target
  | .none => throw (.unboundVariable index)

/-- The value of an operand. -/
def load (operand : Operand) : Task Context Value := do
  match operand with
  | .none => return .none
  | .literal value => return .ofLiteral value
  | .register index => return .number (.ofInt ((← get).shared.registers.get index).toInt)
  | .variable index =>
      let address ← variableAddress index
      Context.onMemory (Task.ofUpdate (·.readSlot address))
  | .rawAddress raw => Context.onMemory (Task.ofUpdate (·.readSlot (Address.ofRaw? raw)))
  | .label _ => throw (.unsupportedOperand operand)

/-- Stores a value to an operand. -/
def store (operand : Operand) (value : Value) : Task Context Unit := do
  match operand with
  | .register index =>
      let raw ← Task.ofConversion value.toLong
      modify fun context =>
        { context with shared.registers := context.shared.registers.set index raw }
  | .variable index =>
      let address ← variableAddress index
      Context.onMemory (modify (·.writeSlot address value))
  | .rawAddress raw => Context.onMemory (modify (·.writeSlot (Address.ofRaw? raw) value))
  | .none | .literal _ | .label _ => throw (.unsupportedOperand operand)

/-- The address of the cell that an operand names. -/
def address (operand : Operand) : Task Context (Option Address) := do
  match operand with
  | .none => return .none
  | .variable index => variableAddress index
  | .rawAddress raw => return Address.ofRaw? raw
  | .literal _ | .register _ | .label _ => throw (.unsupportedOperand operand)

/-- The offset at which a label is marked. -/
def labelOffset (operand : Operand) : Task Context Nat := do
  match operand with
  | .label index =>
      match ((← get).scope.labels.get? index.toNat).bind Binding.target with
      | some offset => return offset
      | .none => throw (.unboundLabel index)
  | _ => throw (.unsupportedOperand operand)

/-- The value of an operand as an integer. -/
def loadInteger (operand : Operand) : Task Context Int32 := do
  Task.ofConversion (← operand.load).toInteger

/-- The value of an operand as a 64-bit integer. -/
def loadLong (operand : Operand) : Task Context Int64 := do
  Task.ofConversion (← operand.load).toLong

/-- The value of an operand as a number. -/
def loadDouble (operand : Operand) : Task Context Binary64 := do
  Task.ofConversion (← operand.load).toDouble

/-- The value of an operand as a text. -/
def loadText (operand : Operand) : Task Context String := do
  Task.ofConversion (← operand.load).toText

/-- The list that the value of an operand is. -/
def loadList (operand : Operand) : Task Context ListHandle := do
  Task.ofConversion (← operand.load).asList

/-- The object that the value of an operand is. -/
def loadObject (operand : Operand) : Task Context ObjectCells := do
  Task.ofConversion (← operand.load).asObject

/-- The value of an operand as an index into a list. -/
def loadIndex (operand : Operand) : Task Context Nat := do
  let index ← operand.loadInteger
  if 0 ≤ index.toInt then return index.toInt.toNat
  else throw (.invalidListIndex index)

end Operand

end ScriptMachine
