import ScriptMachine.Binary64.Basic

/-!
# Rounding, and integers as numbers

A magnitude of the format is rounded to itself, and no rounding falls below the greatest power of
two that is in the exact ratio.  The first makes every integer of at most 53 bits a number that
converts back to it.  The second says what becomes of ratios beyond the range of the format and of
integers beyond the range of a conversion, where the exact result of rounding does not matter.
-/

namespace ScriptMachine

/-! ## Powers of two -/

theorem one_shiftLeft_pos (exponent : Nat) : 0 < 1 <<< exponent := by
  rw [Nat.one_shiftLeft]
  exact Nat.two_pow_pos exponent

theorem shiftLeft_eq_mul (magnitude exponent : Nat) :
    magnitude <<< exponent = magnitude * 1 <<< exponent := by
  rw [Nat.shiftLeft_eq, Nat.one_shiftLeft]

theorem one_shiftLeft_add (small large : Nat) :
    1 <<< (small + large) = 1 <<< small * 1 <<< large := by
  rw [Nat.shiftLeft_add, shiftLeft_eq_mul]

theorem one_shiftLeft_mono {small large : Nat} (le : small ≤ large) :
    1 <<< small ≤ 1 <<< large := by
  rw [Nat.one_shiftLeft, Nat.one_shiftLeft]
  exact Nat.pow_le_pow_right (by decide) le

theorem one_shiftLeft_le_iff {exponent magnitude : Nat} (nonzero : magnitude ≠ 0) :
    1 <<< exponent ≤ magnitude ↔ exponent ≤ magnitude.log2 := by
  rw [Nat.one_shiftLeft, Nat.le_log2 nonzero]

/-! ## Points of the grid -/

namespace Grid

variable {numerator denominator : Nat}

theorem le_nearestMultiple (numerator denominator shift : Nat) :
    numerator / (denominator <<< shift) ≤ nearestMultiple numerator denominator shift := by
  unfold nearestMultiple
  dsimp only
  split
  · exact Nat.le_refl _
  · split <;> omega

/-- A multiple of the step is nearest to itself. -/
theorem nearestMultiple_of_dvd {units shift : Nat} (multiple : units % 1 <<< shift = 0) :
    nearestMultiple units 1 shift = units / 1 <<< shift := by
  have step_pos := one_shiftLeft_pos shift
  unfold nearestMultiple
  dsimp only
  rw [if_pos (by omega)]

/-- The greatest power of two in a ratio is not above what the ratio is rounded to. -/
theorem shiftLeft_log2_le_roundRatio (positive : numerator / denominator ≠ 0) :
    1 <<< (numerator / denominator).log2 ≤ double.roundRatio numerator denominator := by
  have spacing_le : double.spacing (numerator / denominator) ≤ (numerator / denominator).log2 := by
    simp only [spacing, double]
    omega
  obtain ⟨rest, log2_eq⟩ := Nat.exists_eq_add_of_le' spacing_le
  have power_le : 2 ^ rest * 2 ^ double.spacing (numerator / denominator) ≤
      numerator / denominator := by
    rw [← Nat.pow_add, ← log2_eq]
    exact Nat.log2_self_le positive
  have floor_le := le_nearestMultiple numerator denominator
    (double.spacing (numerator / denominator))
  rw [Nat.shiftLeft_eq, ← Nat.div_div_eq_div_mul] at floor_le
  have rest_le := (Nat.le_div_iff_mul_le (Nat.two_pow_pos _)).mpr power_le
  rw [roundRatio, Nat.one_shiftLeft, log2_eq, Nat.pow_add, Nat.shiftLeft_eq]
  exact Nat.mul_le_mul_right _ (Nat.le_trans rest_le floor_le)

/-- A ratio of at most a half is rounded to zero. -/
theorem roundRatio_of_le_half (positive : 0 < denominator) (tiny : 2 * numerator ≤ denominator) :
    double.roundRatio numerator denominator = 0 := by
  have floor_eq : numerator / denominator = 0 := Nat.div_eq_of_lt (by omega)
  have remainder_eq : numerator % denominator = numerator := Nat.mod_eq_of_lt (by omega)
  have spacing_eq : double.spacing (numerator / denominator) = 0 := by
    rw [floor_eq]
    rfl
  rw [roundRatio, spacing_eq, Nat.shiftLeft_zero, nearestMultiple]
  simp only [Nat.shiftLeft_zero, floor_eq, remainder_eq]
  split
  · rfl
  · rw [if_pos (by omega)]

end Grid

/-- A magnitude of the format is rounded to itself. -/
theorem Representable.roundRatio_eq {units : Nat} (representable : Representable units) :
    Grid.double.roundRatio units 1 = units := by
  have spacing_eq : Grid.double.spacing (units / 1) = units.log2 - 52 := by
    rw [Nat.div_one]
    simp only [Grid.spacing, Grid.double]
    omega
  have multiple := representable.2
  rw [Grid.roundRatio, spacing_eq, Grid.nearestMultiple_of_dvd multiple, shiftLeft_eq_mul]
  exact Nat.div_mul_cancel (Nat.dvd_of_mod_eq_zero multiple)

namespace Binary64

/-! ## Ratios out of range -/

theorem ofRatio_eq_infinite {numerator denominator : Nat} (negative : Bool)
    (positive : 0 < denominator) (huge : overflowUnits * denominator ≤ numerator) :
    ofRatio negative numerator denominator = .infinite negative := by
  have overflow_le : overflowUnits ≤ numerator / denominator :=
    (Nat.le_div_iff_mul_le positive).mpr huge
  have nonzero : numerator / denominator ≠ 0 :=
    Nat.pos_iff_ne_zero.mp (Nat.lt_of_lt_of_le overflowUnits_pos overflow_le)
  have beyond : overflowUnits ≤ Grid.double.roundRatio numerator denominator := by
    apply Nat.le_trans _ (Grid.shiftLeft_log2_le_roundRatio nonzero)
    exact one_shiftLeft_mono ((one_shiftLeft_le_iff nonzero).mp overflow_le)
  rw [ofRatio, dif_neg (Nat.not_lt.mpr beyond)]

theorem ofRatio_eq_signedZero {numerator denominator : Nat} (negative : Bool)
    (positive : 0 < denominator) (tiny : 2 * numerator ≤ denominator) :
    ofRatio negative numerator denominator = .signedZero negative := by
  have rounded := Grid.roundRatio_of_le_half positive tiny
  unfold ofRatio signedZero
  simp only [rounded, overflowUnits_pos, dif_pos]

theorem ofRatio_ne_nan (negative : Bool) (numerator denominator : Nat) :
    ofRatio negative numerator denominator ≠ .nan := by
  unfold ofRatio
  split <;> simp

/-! ## Integers -/

theorem unitsPerOne_pos : 0 < unitsPerOne := one_shiftLeft_pos 1074

/-- The integers that numbers tell apart: those up to the first that has a neighbour which is no
number. -/
def exactBound : Nat := 1 <<< 53

theorem natAbs_toInt_le (value : Int32) : value.toInt.natAbs ≤ 1 <<< 31 := by
  have low_eq : -(1 <<< 31 : Int) = Int32.minValue.toInt := by decide
  have high_lt : Int32.maxValue.toInt < 1 <<< 31 := by decide
  have low_le := Int32.minValue_le_toInt value
  have le_high := Int32.toInt_le value
  omega

theorem natAbs_toInt_le_exactBound (value : Int32) : value.toInt.natAbs ≤ exactBound :=
  Nat.le_trans (natAbs_toInt_le value) (by decide)

theorem exactBound_mul_unitsPerOne : exactBound * unitsPerOne = 1 <<< 1127 := by
  decide +kernel

theorem representable_integer {value : Nat} (small : value ≤ exactBound) :
    Representable (value * unitsPerOne) := by
  have shifted : value <<< 1074 = value * unitsPerOne := shiftLeft_eq_mul value 1074
  rw [← shifted]
  apply representable_shiftLeft small
  rw [shifted]
  apply Nat.lt_of_le_of_lt (Nat.mul_le_mul_right unitsPerOne small)
  rw [exactBound_mul_unitsPerOne]
  decide +kernel

/-- A small integer is its own number. -/
theorem ofInt_eq_finite {value : Int} (small : value.natAbs ≤ exactBound) :
    ofInt value =
      .finite (value < 0) (value.natAbs * unitsPerOne) (representable_integer small) := by
  have representable := representable_integer small
  have rounded := representable.roundRatio_eq
  unfold ofInt ofRatio
  simp only [rounded, representable.1, dif_pos]

/-- An integer that is not small is rounded to no small one. -/
theorem ofInt_of_exactBound_le {value : Int} (large : exactBound ≤ value.natAbs) :
    ofInt value = .infinite (value < 0) ∨ ∃ units representable,
      ofInt value = .finite (value < 0) units representable ∧
        exactBound ≤ units / unitsPerOne := by
  have units_le : 1 <<< 1127 ≤ value.natAbs * unitsPerOne / 1 := by
    rw [Nat.div_one, ← exactBound_mul_unitsPerOne]
    exact Nat.mul_le_mul_right unitsPerOne large
  have nonzero : value.natAbs * unitsPerOne / 1 ≠ 0 :=
    Nat.pos_iff_ne_zero.mp (Nat.lt_of_lt_of_le (one_shiftLeft_pos 1127) units_le)
  have rounded : exactBound * unitsPerOne ≤
      Grid.double.roundRatio (value.natAbs * unitsPerOne) 1 := by
    apply Nat.le_trans _ (Grid.shiftLeft_log2_le_roundRatio nonzero)
    rw [exactBound_mul_unitsPerOne]
    exact one_shiftLeft_mono ((one_shiftLeft_le_iff nonzero).mp units_le)
  unfold ofInt ofRatio
  split
  · rename_i inRange
    exact .inr ⟨_, representable_roundRatio (Nat.le_refl 53) inRange, rfl,
      (Nat.le_div_iff_mul_le unitsPerOne_pos).mpr rounded⟩
  · exact .inl rfl

/-! ## Integer parts -/

/-- A small integer is its own integer part, as far as the bounds allow. -/
theorem truncatedBetween_ofInt_of_small {value : Int} (small : value.natAbs ≤ exactBound)
    (low high : Int) :
    (ofInt value).truncatedBetween low high = max low (min high value) := by
  have signed : signedUnits (value < 0) value.natAbs = value := by
    unfold signedUnits
    split <;> rename_i negative <;> simp only [decide_eq_true_eq] at negative <;> omega
  rw [ofInt_eq_finite small]
  simp only [truncatedBetween, Nat.mul_div_cancel _ unitsPerOne_pos, signed]

/-- Between small bounds every integer has the integer part that it has without rounding. -/
theorem truncatedBetween_ofInt (value : Int) {low high : Int} (low_nonpos : low ≤ 0)
    (high_nonneg : 0 ≤ high) (low_small : low.natAbs ≤ exactBound)
    (high_small : high.natAbs ≤ exactBound) :
    (ofInt value).truncatedBetween low high = max low (min high value) := by
  rcases Nat.le_total value.natAbs exactBound with small | large
  · exact truncatedBetween_ofInt_of_small small low high
  · rcases ofInt_of_exactBound_le large with number_eq | ⟨units, representable, number_eq, le_units⟩
    · rw [number_eq]
      simp only [truncatedBetween, decide_eq_true_eq]
      split <;> omega
    · rw [number_eq]
      simp only [truncatedBetween, signedUnits, decide_eq_true_eq]
      split <;> omega

/-- The integer part of an integer that is not positive is not positive. -/
theorem truncatedBetween_ofInt_nonpos {value low high : Int} (nonpos : value ≤ 0)
    (low_nonpos : low ≤ 0) : (ofInt value).truncatedBetween low high ≤ 0 := by
  by_cases zero : value = 0
  · subst zero
    rw [truncatedBetween_ofInt_of_small (by decide)]
    omega
  · have negative : value < 0 := by omega
    unfold ofInt ofRatio
    split
    · simp only [truncatedBetween, signedUnits, negative, decide_true, if_true]
      have whole_nonneg := Int.natCast_nonneg
        (Grid.double.roundRatio (value.natAbs * unitsPerOne) 1 / unitsPerOne)
      omega
    · simp only [truncatedBetween, negative, decide_true, if_true]
      exact low_nonpos

theorem le_truncatedBetween {low high : Int} (low_nonpos : low ≤ 0) (low_le : low ≤ high)
    (number : Binary64) : low ≤ number.truncatedBetween low high := by
  cases number with
  | nan => exact low_nonpos
  | infinite negative =>
      cases negative with
      | true => exact Int.le_refl low
      | false => exact low_le
  | finite => exact Int.le_max_left _ _

/-- Converting an integer to a number and to 32 bits takes it to the nearest bound when it is out
of range. -/
theorem toInt_toInt32_ofInt (value : Int) :
    (ofInt value).toInt32.toInt =
      max Int32.minValue.toInt (min Int32.maxValue.toInt value) := by
  have low_le : Int32.minValue.toInt ≤ Int32.maxValue.toInt := by decide
  have upper : Int32.maxValue.toInt < 1 <<< 31 := by decide
  rw [toInt32, truncatedBetween_ofInt value (by decide) (by decide) (by decide) (by decide)]
  apply Int32.toInt_ofInt_of_le
  · exact Int.le_max_left _ _
  · apply Int.lt_of_le_of_lt _ upper
    exact Int.max_le.mpr ⟨low_le, Int.min_le_left _ _⟩

/-- Small integers survive being numbers. -/
theorem toInt_toInt64_ofInt {value : Int} (small : value.natAbs ≤ exactBound) :
    (ofInt value).toInt64.toInt = value := by
  have high_le : (exactBound : Int) ≤ Int64.maxValue.toInt := by decide
  have low_le : Int64.minValue.toInt ≤ -(exactBound : Int) := by decide
  have value_eq : max Int64.minValue.toInt (min Int64.maxValue.toInt value) = value := by omega
  rw [toInt64, truncatedBetween_ofInt_of_small small, value_eq]
  apply Int64.toInt_ofInt_of_le
  · exact Int.le_trans low_le (by omega)
  · exact Int.lt_of_le_of_lt (by omega : value ≤ exactBound) (by decide)

theorem toInt_toInt64_ofInt_nonpos {value : Int} (nonpos : value ≤ 0) :
    (ofInt value).toInt64.toInt ≤ 0 := by
  have low_nonpos : Int64.minValue.toInt ≤ 0 := by decide
  have truncated :
      (ofInt value).truncatedBetween Int64.minValue.toInt Int64.maxValue.toInt ≤ 0 :=
    truncatedBetween_ofInt_nonpos nonpos low_nonpos
  have low_le := le_truncatedBetween low_nonpos (by decide : _ ≤ Int64.maxValue.toInt) (ofInt value)
  rw [toInt64, Int64.toInt_ofInt_of_le low_le (Int.lt_of_le_of_lt truncated (by decide))]
  exact truncated

end Binary64

end ScriptMachine
