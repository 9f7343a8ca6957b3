import ScriptMachine.Decimal.Basic

/-!
# The shortest decimal of a number

Every real number near a double rounds to it.  Among the decimals in that interval
`Decimal.shortest` takes one with the fewest digits, of these the one nearest to the
double, and of two that are equally near the greater.

The interval is bounded by the midpoints to the neighbouring doubles.  It contains
its bounds exactly when the significand is even, and it is shorter below a power of
two.  All comparisons are made on natural numbers: bounds are counted in quarters of
a unit.
-/

namespace ScriptMachine

/-- The magnitudes that round to one magnitude: those between `low` and `high`
quarters of a unit, with the bounds when `closed`. -/
structure RoundingInterval where
  low : Nat
  high : Nat
  closed : Bool

namespace RoundingInterval

/-- The interval of a magnitude. -/
def around (units : Nat) : RoundingInterval :=
  let shift := units.log2 - 52
  let step := 1 <<< shift
  let lower := if units = 1 <<< units.log2 ∧ 0 < shift then step else 2 * step
  ⟨4 * units - lower, 4 * units + 2 * step, units / step % 2 = 0⟩

/-- Whether the magnitude `numerator / denominator` units is in the interval. -/
def contains (interval : RoundingInterval) (numerator denominator : Nat) : Bool :=
  let low := interval.low * denominator
  let high := interval.high * denominator
  if interval.closed then low ≤ 4 * numerator && 4 * numerator ≤ high
  else low < 4 * numerator && 4 * numerator < high

end RoundingInterval

namespace Decimal

/-- The least `places` for which `units * 10 ^ places` is at least one, if it is not
above the bound. -/
def leadingPlaces (units : Nat) : (bound : Nat) → Nat
  | 0 => 0
  | bound + 1 =>
      if unitsPerOne ≤ units then 0 else leadingPlaces (units * 10) bound + 1

/-- The power of ten of the first digit of a positive magnitude. -/
def leadingExponent (units : Nat) : Int :=
  if unitsPerOne ≤ units then (Nat.toDigits 10 (units / unitsPerOne)).length - 1
  else -(leadingPlaces units 400 : Int)

/-- The multiple of `10 ^ exponent` that is in the rounding interval of a magnitude
and next to it, with the nearer one preferred, if there is any. -/
def onGrid? (units : Nat) (exponent : Int) : Option Nat :=
  let scale := powerOfTen (-exponent).toNat
  let step := powerOfTen exponent.toNat * unitsPerOne
  let scaled := units * scale
  let floor := scaled / step
  let interval := RoundingInterval.around units
  let belowIn := 0 < floor && interval.contains (floor * step) scale
  let aboveIn := interval.contains ((floor + 1) * step) scale
  if belowIn && aboveIn then
    some (if 2 * (scaled % step) < step then floor else floor + 1)
  else if belowIn then some floor
  else if aboveIn then some (floor + 1)
  else none

/-- The decimal of a positive magnitude with the first digit at `leading` and at
most 17 digits, tried from `count` digits on. -/
def shortestFrom (units : Nat) (leading : Int) : (count remaining : Nat) → Nat × Int
  | count, 0 => ((onGrid? units (leading - count)).getD 0, leading - count)
  | count, remaining + 1 =>
      match onGrid? units (leading - count) with
      | some digits => (digits, leading - count)
      | none => shortestFrom units leading (count + 1) remaining

/-- The shortest decimal that rounds to a magnitude with the given sign. -/
def shortest (negative : Bool) (units : Nat) : Decimal :=
  if units = 0 then ⟨negative, 0, 0⟩
  else
    let (digits, exponent) := shortestFrom units (leadingExponent units) 0 17
    ⟨negative, digits, exponent⟩

end Decimal

/-- The words that a kind of text uses for numbers without digits. -/
structure NumberWords where
  infinity : String
  nan : String

/-- The text of a number: its shortest decimal, never with an exponent. -/
def Binary64.text (words : NumberWords) : Binary64 → String
  | .nan => words.nan
  | .infinite negative => if negative then "-" ++ words.infinity else words.infinity
  | .finite negative units _ => (Decimal.shortest negative units).positional

end ScriptMachine
