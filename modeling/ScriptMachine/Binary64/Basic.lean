import ScriptMachine.Binary64.Rounding

/-!
# Double precision numbers

A `Binary64` is a number of the IEEE 754 format of that name: a signed finite
number, a signed infinity, or the one value that is not a number.  The magnitude
of a finite number is kept as its natural number of units of `2 ^ (-1074)`, so
each number has exactly one representation and `=` on the type is identity of
data.  The comparison of numbers is `Binary64.equal`, under which zeros of both
signs are equal and `nan` equals nothing.

Every number is built by `ofRatio`, which rounds an exact ratio, or from units that
are known to be a point of the grid.
-/

namespace ScriptMachine

/-- The units in one. -/
def unitsPerOne : Nat := 1 <<< 1074

/-- The least number of units that is out of range. -/
def overflowUnits : Nat := 1 <<< Grid.double.overflow

/-- A number of units is a magnitude of the format if it is in range and all bits
after its first 53 are zero. -/
def Representable (units : Nat) : Prop :=
  units < overflowUnits ∧ units % 1 <<< (units.log2 - 52) = 0

instance (units : Nat) : Decidable (Representable units) :=
  inferInstanceAs (Decidable (_ ∧ _))

theorem overflowUnits_pos : 0 < overflowUnits := by
  rw [overflowUnits, Nat.one_shiftLeft]
  exact Nat.two_pow_pos Grid.double.overflow

theorem representable_zero : Representable 0 :=
  ⟨overflowUnits_pos, rfl⟩

/-- A significand of at most 53 bits, or the next power of two, times a power of
two is a magnitude of the format if it is in range. -/
theorem representable_shiftLeft {significand shift : Nat}
    (bounded : significand ≤ 1 <<< 53)
    (inRange : significand <<< shift < overflowUnits) :
    Representable (significand <<< shift) := by
  refine ⟨inRange, ?_⟩
  rw [Nat.one_shiftLeft] at bounded
  rw [Nat.shiftLeft_eq, Nat.one_shiftLeft]
  by_cases zero : significand = 0
  · simp [zero]
  have nonzero : significand * 2 ^ shift ≠ 0 :=
    Nat.mul_ne_zero zero (Nat.pos_iff_ne_zero.mp (Nat.two_pow_pos shift))
  have below : (significand * 2 ^ shift).log2 < 54 + shift := by
    rw [Nat.log2_lt nonzero, Nat.pow_add]
    exact Nat.mul_lt_mul_of_pos_right (by omega) (Nat.two_pow_pos shift)
  apply Nat.mod_eq_zero_of_dvd
  by_cases small : (significand * 2 ^ shift).log2 - 52 ≤ shift
  · exact Nat.dvd_trans (Nat.pow_dvd_pow 2 small) (Nat.dvd_mul_left _ _)
  · have top : (significand * 2 ^ shift).log2 = 53 + shift := by omega
    have large : 2 ^ 53 * 2 ^ shift ≤ significand * 2 ^ shift := by
      rw [← Nat.pow_add, ← top]
      exact Nat.log2_self_le nonzero
    have exact : significand = 2 ^ 53 :=
      Nat.le_antisymm bounded (Nat.le_of_mul_le_mul_right large (Nat.two_pow_pos shift))
    rw [top, exact, ← Nat.pow_add]
    exact Nat.pow_dvd_pow 2 (by omega)

/-- The double precision grid consists of representable magnitudes. -/
theorem representable_roundRatio {grid : Grid} (coarse : grid.precision ≤ 53)
    {numerator denominator : Nat}
    (inRange : grid.roundRatio numerator denominator < overflowUnits) :
    Representable (grid.roundRatio numerator denominator) :=
  representable_shiftLeft
    (Nat.le_trans (grid.nearestMultiple_spacing_le numerator denominator)
      (by
        rw [Nat.one_shiftLeft, Nat.one_shiftLeft]
        exact Nat.pow_le_pow_right (by decide) coarse))
    inRange

/-- A number of the IEEE 754 binary64 format. -/
inductive Binary64 where
  | nan
  | infinite (negative : Bool)
  | finite (negative : Bool) (units : Nat) (representable : Representable units)
  deriving DecidableEq

namespace Binary64

/-- Zero of the given sign. -/
def signedZero (negative : Bool) : Binary64 :=
  .finite negative 0 representable_zero

/-- Positive zero. -/
def zero : Binary64 := signedZero false

instance : Inhabited Binary64 := ⟨zero⟩

/-- The number nearest to `numerator / denominator` units with the given sign:
an infinity if that lies beyond the range. -/
def ofRatio (negative : Bool) (numerator denominator : Nat) : Binary64 :=
  if inRange : Grid.double.roundRatio numerator denominator < overflowUnits then
    .finite negative (Grid.double.roundRatio numerator denominator)
      (representable_roundRatio (Nat.le_refl 53) inRange)
  else
    .infinite negative

/-- The number nearest to an integer. -/
def ofInt (value : Int) : Binary64 :=
  ofRatio (value < 0) (value.natAbs * unitsPerOne) 1

/-- One. -/
def one : Binary64 := ofInt 1

/-- The number `1` for true and `0` for false. -/
def ofBool (value : Bool) : Binary64 :=
  if value then one else zero

/-- The units of a finite number, with its sign. -/
def signedUnits (negative : Bool) (units : Nat) : Int :=
  if negative then -(units : Int) else units

/-- Where a number stands in the order of numbers: at its units if it is finite,
outside the finite range if it is infinite, and nowhere if it is `nan`. -/
def position? : Binary64 → Option Int
  | .nan => none
  | .infinite negative => some (signedUnits negative overflowUnits)
  | .finite negative units _ => some (signedUnits negative units)

/-- Equality of numbers: `nan` equals nothing, and both zeros are equal. -/
def equal (left right : Binary64) : Bool :=
  match left.position?, right.position? with
  | some leftPosition, some rightPosition => leftPosition == rightPosition
  | _, _ => false

/-- The order of numbers, in which `nan` is below and above nothing. -/
def below (left right : Binary64) : Bool :=
  match left.position?, right.position? with
  | some leftPosition, some rightPosition => leftPosition < rightPosition
  | _, _ => false

/-- A number is greater than zero. -/
def positive (number : Binary64) : Bool := below zero number

/-- The integer part of a number: zero for `nan`, and the bound that is passed for
an infinity. -/
def truncatedBetween (low high : Int) : Binary64 → Int
  | .nan => 0
  | .infinite negative => if negative then low else high
  | .finite negative units _ =>
      max low (min high (signedUnits negative (units / unitsPerOne)))

/-- The integer part as a 32-bit integer, taken to the nearest bound when it is out
of range. -/
def toInt32 (number : Binary64) : Int32 :=
  Int32.ofInt (number.truncatedBetween Int32.minValue.toInt Int32.maxValue.toInt)

/-- The integer part as a 64-bit integer, taken to the nearest bound when it is out
of range. -/
def toInt64 (number : Binary64) : Int64 :=
  Int64.ofInt (number.truncatedBetween Int64.minValue.toInt Int64.maxValue.toInt)

end Binary64

end ScriptMachine
