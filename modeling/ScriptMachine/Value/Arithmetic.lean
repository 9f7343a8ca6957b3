import ScriptMachine.Binary64.Arithmetic
import ScriptMachine.Value.Conversion

/-!
# Arithmetic on values

Two integers give an integer if the exact result fits 32 bits and the operation has one;
otherwise the result is a number, computed from the operands as numbers.  Bitwise
operations work on integers and give numbers.
-/

namespace ScriptMachine

namespace Value

/-- An integer as a value, if it fits 32 bits. -/
def ofInt32? (value : Int) : Option Value :=
  if Int32.minValue.toInt ≤ value ∧ value ≤ Int32.maxValue.toInt then
    some (.integer (Int32.ofInt value))
  else .none

/-- The result of an operation on two integers, if there is one that fits. -/
def exactly? (operation : Int → Int → Int) : Value → Value → Option Value
  | .integer left, .integer right => ofInt32? (operation left.toInt right.toInt)
  | _, _ => .none

/-- The result of an operation on two values as numbers. -/
def rounded (operation : Binary64 → Binary64 → Binary64) (left right : Value) :
    Except Mismatch Value := do
  let leftNumber ← left.toDouble
  let rightNumber ← right.toDouble
  return .number (operation leftNumber rightNumber)

/-- The exact result if there is one, and else the rounded one. -/
def exactlyOrRounded (exact : Int → Int → Int) (operation : Binary64 → Binary64 → Binary64)
    (left right : Value) : Except Mismatch Value :=
  match exactly? exact left right with
  | some result => .ok result
  | .none => rounded operation left right

/-- The sum of two values. -/
def add : Value → Value → Except Mismatch Value :=
  exactlyOrRounded (· + ·) Binary64.add

/-- The difference of two values. -/
def subtract : Value → Value → Except Mismatch Value :=
  exactlyOrRounded (· - ·) Binary64.subtract

/-- The product of two values. -/
def multiply : Value → Value → Except Mismatch Value :=
  exactlyOrRounded (· * ·) Binary64.multiply

/-- The quotient of two values, which is never an integer. -/
def divide : Value → Value → Except Mismatch Value :=
  rounded Binary64.divide

end Value

end ScriptMachine
