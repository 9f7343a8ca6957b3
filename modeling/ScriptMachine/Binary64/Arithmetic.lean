import ScriptMachine.Binary64.Basic

/-!
# Arithmetic on double precision numbers

Sums, products and quotients are the exact results rounded once.  An exact sum of
zero is negative only when both summands are; every other zero takes the sign of
the operation.
-/

namespace ScriptMachine

namespace Binary64

/-- The number of opposite sign. -/
def negate : Binary64 → Binary64
  | .nan => .nan
  | .infinite negative => .infinite (!negative)
  | .finite negative units representable => .finite (!negative) units representable

/-- The sum of two numbers. -/
def add : Binary64 → Binary64 → Binary64
  | .nan, _ => .nan
  | _, .nan => .nan
  | .infinite left, .infinite right => if left = right then .infinite left else .nan
  | .infinite negative, .finite .. => .infinite negative
  | .finite .., .infinite negative => .infinite negative
  | .finite leftNegative leftUnits _, .finite rightNegative rightUnits _ =>
      let total := signedUnits leftNegative leftUnits + signedUnits rightNegative rightUnits
      if total = 0 then signedZero (leftNegative && rightNegative)
      else ofRatio (total < 0) total.natAbs 1

/-- The difference of two numbers. -/
def subtract (left right : Binary64) : Binary64 :=
  add left (negate right)

/-- The product of two numbers. -/
def multiply : Binary64 → Binary64 → Binary64
  | .nan, _ => .nan
  | _, .nan => .nan
  | .infinite left, .infinite right => .infinite (left != right)
  | .infinite left, .finite right units _ =>
      if units = 0 then .nan else .infinite (left != right)
  | .finite left units _, .infinite right =>
      if units = 0 then .nan else .infinite (left != right)
  | .finite left leftUnits _, .finite right rightUnits _ =>
      ofRatio (left != right) (leftUnits * rightUnits) unitsPerOne

/-- The quotient of two numbers. -/
def divide : Binary64 → Binary64 → Binary64
  | .nan, _ => .nan
  | _, .nan => .nan
  | .infinite _, .infinite _ => .nan
  | .infinite left, .finite right _ _ => .infinite (left != right)
  | .finite left _ _, .infinite right => signedZero (left != right)
  | .finite left leftUnits _, .finite right rightUnits _ =>
      if rightUnits = 0 then
        if leftUnits = 0 then .nan else .infinite (left != right)
      else ofRatio (left != right) (leftUnits * unitsPerOne) rightUnits

/-- The number without its fractional part. -/
def truncate : Binary64 → Binary64
  | .finite negative units _ =>
      ofRatio negative (units / unitsPerOne * unitsPerOne) 1
  | number => number

/-- The greatest whole number that is not above the number. -/
def floor : Binary64 → Binary64
  | .finite negative units _ =>
      let whole := units / unitsPerOne
      if negative && units % unitsPerOne != 0 then
        ofRatio true ((whole + 1) * unitsPerOne) 1
      else
        ofRatio negative (whole * unitsPerOne) 1
  | number => number

/-- What is left of a number above its floor. -/
def fraction (number : Binary64) : Binary64 :=
  subtract number (floor number)

/-- The nearest number of single precision. -/
def toSingle : Binary64 → Binary64
  | .finite negative units _ =>
      let rounded := Grid.single.roundRatio units 1
      if rounded < 1 <<< Grid.single.overflow then ofRatio negative rounded 1
      else .infinite negative
  | number => number

end Binary64

end ScriptMachine
