/-!
# Rounding to a binary floating point grid

Magnitudes are counted in *units* of `2 ^ (-1074)`, the least positive double
precision number, so that every finite number of the formats used here is a
natural number of units and exact results are ratios of natural numbers.

A `Grid` says which of these natural numbers a format has below its overflow
threshold.  `Grid.roundRatio` takes an exact ratio to the nearest point of the
grid, and a half to the neighbour whose significand is even.  The result may lie
beyond the threshold; what that means is left to the type of numbers.
-/

namespace ScriptMachine

/-- The points of a binary format: a significand of `precision` bits, times a
power of two that is at least `2 ^ finest` units, below `2 ^ overflow` units. -/
structure Grid where
  precision : Nat
  finest : Nat
  overflow : Nat

namespace Grid

/-- Double precision: 53 bits, every unit a point, and overflow at `2 ^ 1024`. -/
def double : Grid := ⟨53, 0, 2098⟩

/-- Single precision: 24 bits, points no finer than `2 ^ (-149)`, and overflow at
`2 ^ 128`. -/
def single : Grid := ⟨24, 925, 1202⟩

/-- The binary logarithm of the distance between neighbouring points near
`magnitude` units. -/
def spacing (grid : Grid) (magnitude : Nat) : Nat :=
  max (magnitude.log2 + 1 - grid.precision) grid.finest

/-- The multiple of `2 ^ shift` nearest to `numerator / denominator`, counted in
`2 ^ shift`; a half goes to the even neighbour. -/
def nearestMultiple (numerator denominator shift : Nat) : Nat :=
  let step := denominator <<< shift
  let quotient := numerator / step
  let remainder := numerator % step
  if 2 * remainder < step then quotient
  else if 2 * remainder = step then quotient + quotient % 2
  else quotient + 1

/-- The point of the grid, unbounded above, nearest to `numerator / denominator`
units. -/
def roundRatio (grid : Grid) (numerator denominator : Nat) : Nat :=
  let shift := grid.spacing (numerator / denominator)
  nearestMultiple numerator denominator shift <<< shift

theorem nearestMultiple_le (numerator denominator shift : Nat) :
    nearestMultiple numerator denominator shift ≤
      numerator / (denominator <<< shift) + 1 := by
  unfold nearestMultiple
  dsimp only
  split
  · omega
  · split <;> omega

/-- The significand found by rounding has at most `precision` bits, or is the
next power of two. -/
theorem nearestMultiple_spacing_le (grid : Grid) (numerator denominator : Nat) :
    nearestMultiple numerator denominator (grid.spacing (numerator / denominator)) ≤
      1 <<< grid.precision := by
  refine Nat.le_trans (nearestMultiple_le _ _ _) ?_
  rw [Nat.shiftLeft_eq, Nat.one_shiftLeft, ← Nat.div_div_eq_div_mul]
  apply Nat.succ_le_of_lt
  rw [Nat.div_lt_iff_lt_mul (Nat.two_pow_pos _), ← Nat.pow_add]
  refine Nat.lt_of_lt_of_le Nat.lt_log2_self (Nat.pow_le_pow_right (by decide) ?_)
  unfold spacing
  omega

end Grid

end ScriptMachine
