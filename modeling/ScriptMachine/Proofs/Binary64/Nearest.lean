import Mathlib.Algebra.Order.Ring.Int
import ScriptMachine.Binary64.Arithmetic
import ScriptMachine.Proofs.Binary64.Integers

/-!
# Nearest numbers

Rounding takes a magnitude to a magnitude of the format that is nearest to it, and to one with an
even significand where two are as near.  A magnitude of the format that is not on the grid of the
rounding lies below the greatest power of two in the magnitude that is rounded, and that power is on
the grid; so it is enough to compare with the points of the grid.

Sums and products of integers that are small enough to be numbers are therefore their exact sums and
products, rounded once.
-/

namespace ScriptMachine

/-! ## Distances -/

/-- How far a magnitude is from another. -/
def distance (units magnitude : Nat) : Nat := (units - magnitude : Int).natAbs

/-- The last bit of a significand of 53 bits is zero. -/
def EvenSignificand (units : Nat) : Prop := units / 1 <<< (units.log2 - 52) % 2 = 0

namespace Grid

/-- Two multiples of a step are the same or a step apart. -/
theorem mul_cases (left right step : Nat) :
    left * step + step ≤ right * step ∨ left = right ∨ right * step + step ≤ left * step := by
  rcases Nat.lt_trichotomy left right with less | same | greater
  · left
    rw [← Nat.succ_mul]
    exact Nat.mul_le_mul_right step less
  · exact .inr (.inl same)
  · right; right
    rw [← Nat.succ_mul]
    exact Nat.mul_le_mul_right step greater

variable {units shift : Nat}

/-- The nearest multiple is at most as far as any other, and even where another is as far. -/
theorem distance_nearestMultiple (units shift multiple : Nat) :
    distance (nearestMultiple units 1 shift * 1 <<< shift) units ≤
        distance (multiple * 1 <<< shift) units ∧
      (distance (nearestMultiple units 1 shift * 1 <<< shift) units =
          distance (multiple * 1 <<< shift) units →
        multiple = nearestMultiple units 1 shift ∨
          0 < shift ∧ nearestMultiple units 1 shift % 2 = 0) := by
  have step_pos := one_shiftLeft_pos shift
  have step_eq : shift = 0 → 1 <<< shift = 1 := by
    rintro rfl
    rfl
  unfold nearestMultiple distance
  dsimp only
  generalize 1 <<< shift = step at step_pos step_eq ⊢
  have units_eq := Nat.div_add_mod' units step
  have remainder_lt := Nat.mod_lt units step_pos
  generalize units / step = quotient at units_eq ⊢
  generalize units % step = remainder at units_eq remainder_lt ⊢
  have next_eq : (quotient + 1) * step = quotient * step + step := Nat.succ_mul quotient step
  have below := mul_cases multiple quotient step
  have above := mul_cases multiple (quotient + 1) step
  split
  · constructor <;> omega
  · split
    · rcases Nat.mod_two_eq_zero_or_one quotient with even | odd
      · rw [even, Nat.add_zero]
        constructor <;> omega
      · rw [odd]
        constructor <;> omega
    · constructor <;> omega

theorem spacing_double (magnitude : Nat) : double.spacing magnitude = magnitude.log2 - 52 := by
  simp only [spacing, double]
  omega

theorem roundRatio_double (magnitude : Nat) :
    double.roundRatio magnitude 1 =
      nearestMultiple magnitude 1 (magnitude.log2 - 52) * 1 <<< (magnitude.log2 - 52) := by
  rw [roundRatio, Nat.div_one, spacing_double, shiftLeft_eq_mul]

/-- An even multiple of a step has an even significand, also if it is the next power of two. -/
theorem evenSignificand_mul {significand : Nat} (shift : Nat) (large : 1 <<< 52 ≤ significand)
    (le : significand ≤ 1 <<< 53) (even : significand % 2 = 0) :
    EvenSignificand (significand * 1 <<< shift) := by
  have step_pos := one_shiftLeft_pos shift
  have product_ne : significand * 1 <<< shift ≠ 0 :=
    Nat.mul_ne_zero (Nat.pos_iff_ne_zero.mp (Nat.lt_of_lt_of_le (by decide) large))
      (Nat.pos_iff_ne_zero.mp step_pos)
  have low : 52 + shift ≤ (significand * 1 <<< shift).log2 := by
    rw [← one_shiftLeft_le_iff product_ne, one_shiftLeft_add]
    exact Nat.mul_le_mul_right _ large
  unfold EvenSignificand
  rcases Nat.lt_or_ge (significand * 1 <<< shift).log2 (53 + shift) with below | beyond
  · have exponent_eq : (significand * 1 <<< shift).log2 - 52 = shift := by omega
    rw [exponent_eq, Nat.mul_div_cancel _ step_pos]
    exact even
  · rw [ge_iff_le, ← one_shiftLeft_le_iff product_ne, one_shiftLeft_add] at beyond
    have significand_eq : significand = 1 <<< 53 :=
      Nat.le_antisymm le (Nat.le_of_mul_le_mul_right beyond step_pos)
    rw [significand_eq, ← one_shiftLeft_add, Nat.one_shiftLeft (53 + shift), Nat.log2_two_pow]
    have exponent_eq : 53 + shift = 1 + 51 + (shift + 1) := by omega
    have step_eq : 53 + shift - 52 = shift + 1 := by omega
    rw [step_eq, exponent_eq, ← Nat.one_shiftLeft, one_shiftLeft_add, one_shiftLeft_add,
      Nat.mul_div_cancel _ (one_shiftLeft_pos _)]
    exact Nat.mul_mod_right 2 _

theorem evenSignificand_roundRatio {magnitude : Nat} (coarse : 0 < magnitude.log2 - 52)
    (even : nearestMultiple magnitude 1 (magnitude.log2 - 52) % 2 = 0) :
    EvenSignificand (double.roundRatio magnitude 1) := by
  have nonzero : magnitude ≠ 0 := by
    rintro rfl
    contradiction
  have significand_le := double.nearestMultiple_spacing_le magnitude 1
  rw [Nat.div_one, spacing_double] at significand_le
  have exponent_eq : 52 + (magnitude.log2 - 52) = magnitude.log2 := by omega
  have large : 1 <<< 52 ≤ nearestMultiple magnitude 1 (magnitude.log2 - 52) := by
    apply Nat.le_trans _ (le_nearestMultiple magnitude 1 (magnitude.log2 - 52))
    rw [Nat.le_div_iff_mul_le (one_shiftLeft_pos _), ← one_shiftLeft_add]
    exact (one_shiftLeft_le_iff nonzero).mpr (Nat.le_of_eq exponent_eq)
  rw [roundRatio_double]
  exact evenSignificand_mul _ large significand_le even

/-- A magnitude of the format that is on no coarser grid than a step is a multiple of the step. -/
theorem aligned_of_le_log2 {units shift : Nat} (representable : Representable units)
    (le : shift ≤ units.log2 - 52) : units % 1 <<< shift = 0 := by
  apply Nat.mod_eq_zero_of_dvd
  apply Nat.dvd_trans _ (Nat.dvd_of_mod_eq_zero representable.2)
  rw [Nat.one_shiftLeft, Nat.one_shiftLeft]
  exact Nat.pow_dvd_pow 2 le

/-- What is not on the grid of a rounding is farther from the rounded magnitude than a power of two
that is. -/
theorem distance_roundRatio_lt {magnitude units : Nat} (representable : Representable units)
    (unaligned : units % 1 <<< (magnitude.log2 - 52) ≠ 0) :
    distance (double.roundRatio magnitude 1) magnitude < distance units magnitude := by
  have finer : units.log2 - 52 < magnitude.log2 - 52 := by
    apply Nat.lt_of_not_le
    intro le
    exact unaligned (aligned_of_le_log2 representable le)
  have units_ne : units ≠ 0 := by
    rintro rfl
    exact unaligned (Nat.zero_mod _)
  have magnitude_ne : magnitude ≠ 0 := by
    rintro rfl
    contradiction
  have below : units < 1 <<< magnitude.log2 := by
    rw [← Nat.not_le, one_shiftLeft_le_iff units_ne]
    omega
  have power_le : 1 <<< magnitude.log2 ≤ magnitude :=
    (one_shiftLeft_le_iff magnitude_ne).mpr (Nat.le_refl _)
  have near := (distance_nearestMultiple magnitude (magnitude.log2 - 52) (1 <<< 52)).1
  have power_eq : 52 + (magnitude.log2 - 52) = magnitude.log2 := by omega
  rw [← one_shiftLeft_add, power_eq, ← roundRatio_double] at near
  unfold distance at near ⊢
  omega

/-- No magnitude of the format is nearer than the one that a magnitude is rounded to, which has an
even significand if another one is as near. -/
theorem distance_roundRatio {units : Nat} (representable : Representable units) (magnitude : Nat) :
    distance (double.roundRatio magnitude 1) magnitude ≤ distance units magnitude ∧
      (distance (double.roundRatio magnitude 1) magnitude = distance units magnitude →
        units = double.roundRatio magnitude 1 ∨
          EvenSignificand (double.roundRatio magnitude 1)) := by
  by_cases aligned : units % 1 <<< (magnitude.log2 - 52) = 0
  · have units_eq := Nat.div_mul_cancel (Nat.dvd_of_mod_eq_zero aligned)
    obtain ⟨near, even⟩ := distance_nearestMultiple magnitude (magnitude.log2 - 52)
      (units / 1 <<< (magnitude.log2 - 52))
    rw [units_eq, ← roundRatio_double] at near even
    refine ⟨near, fun tie => ?_⟩
    rcases even tie with same | ⟨coarse, even⟩
    · left
      rw [roundRatio_double, ← same, units_eq]
    · exact .inr (evenSignificand_roundRatio coarse even)
  · have farther := distance_roundRatio_lt representable aligned
    exact ⟨Nat.le_of_lt farther, fun tie => absurd tie (Nat.ne_of_lt farther)⟩

theorem roundRatio_le_double (magnitude : Nat) :
    double.roundRatio magnitude 1 ≤ 2 * magnitude := by
  have near := (distance_roundRatio representable_zero magnitude).1
  unfold distance at near
  omega

/-- What is common to both parts of a ratio does not matter. -/
theorem roundRatio_mul_right (grid : Grid) {factor : Nat} (positive : 0 < factor)
    (numerator denominator : Nat) :
    grid.roundRatio (numerator * factor) (denominator * factor) =
      grid.roundRatio numerator denominator := by
  have nearest_eq (shift : Nat) :
      nearestMultiple (numerator * factor) (denominator * factor) shift =
        nearestMultiple numerator denominator shift := by
    have step_eq : (denominator * factor) <<< shift = denominator <<< shift * factor := by
      rw [Nat.shiftLeft_eq, Nat.shiftLeft_eq, Nat.mul_right_comm]
    have scale (units : Nat) : 2 * (units * factor) = 2 * units * factor := (Nat.mul_assoc ..).symm
    simp only [nearestMultiple, step_eq, Nat.mul_div_mul_right _ _ positive,
      Nat.mul_mod_mul_right, scale, Nat.mul_lt_mul_right positive,
      Nat.mul_right_cancel_iff positive]
  rw [roundRatio, roundRatio, Nat.mul_div_mul_right _ _ positive]
  simp only [nearest_eq]

end Grid

namespace Binary64

/-! ## The number of an integer -/

/-- A number is nearest to an integer: it is finite, no finite number is nearer, and the last bit of
its significand is zero if another one is as near. -/
inductive IsNearest (value : Int) : Binary64 → Prop where
  | finite {negative : Bool} {units : Nat} {representable : Representable units}
      (near : ∀ otherNegative otherUnits, Representable otherUnits →
        (signedUnits negative units - value * unitsPerOne).natAbs ≤
          (signedUnits otherNegative otherUnits - value * unitsPerOne).natAbs)
      (even : ∀ otherNegative otherUnits, Representable otherUnits →
        (signedUnits negative units - value * unitsPerOne).natAbs =
          (signedUnits otherNegative otherUnits - value * unitsPerOne).natAbs →
        signedUnits otherNegative otherUnits = signedUnits negative units ∨
          EvenSignificand units) :
      IsNearest value (.finite negative units representable)

/-- Magnitudes of one sign are as far apart as the numbers. -/
theorem natAbs_signedUnits_sub (negative : Bool) (units magnitude : Nat) :
    (signedUnits negative units - signedUnits negative magnitude).natAbs =
      distance units magnitude := by
  cases negative with
  | false => rfl
  | true =>
      simp only [signedUnits, distance, if_true]
      omega

/-- A number of the other sign is as far as zero and itself together. -/
theorem natAbs_signedUnits_not_sub (negative : Bool) (units magnitude : Nat) :
    (signedUnits (!negative) units - signedUnits negative magnitude).natAbs =
      distance 0 magnitude + units := by
  cases negative <;>
    simp only [signedUnits, distance, Bool.not_true, Bool.not_false, Bool.false_eq_true, if_true,
      if_false] <;> omega

theorem signedUnits_zero (negative : Bool) : signedUnits negative 0 = 0 := by
  cases negative <;> rfl

theorem signedUnits_natAbs (value : Int) :
    signedUnits (value < 0) (value.natAbs * unitsPerOne) = value * unitsPerOne := by
  rcases Int.lt_or_le value 0 with negative | nonneg
  · have natAbs_eq : (value.natAbs : Int) = -value := by omega
    rw [signedUnits, if_pos (decide_eq_true negative), Int.natCast_mul, natAbs_eq, Int.neg_mul,
      Int.neg_neg]
  · have natAbs_eq : (value.natAbs : Int) = value := by omega
    have not_negative : ¬decide (value < 0) = true := by simpa using nonneg
    rw [signedUnits, if_neg not_negative, Int.natCast_mul, natAbs_eq]

/-- The number of a small integer stands where the integer does. -/
theorem position?_ofInt {value : Int} (small : value.natAbs ≤ exactBound) :
    (ofInt value).position? = some (value * unitsPerOne) := by
  rw [ofInt_eq_finite small, position?, signedUnits_natAbs]

/-- Rounding with a sign is to the nearest among the numbers of both signs. -/
theorem distance_roundRatio_signed {otherUnits : Nat} (other : Representable otherUnits)
    (negative otherNegative : Bool) (magnitude : Nat) :
    let units := Grid.double.roundRatio magnitude 1
    let position := signedUnits negative magnitude
    (signedUnits negative units - position).natAbs ≤
        (signedUnits otherNegative otherUnits - position).natAbs ∧
      ((signedUnits negative units - position).natAbs =
          (signedUnits otherNegative otherUnits - position).natAbs →
        signedUnits otherNegative otherUnits = signedUnits negative units ∨
          EvenSignificand units) := by
  dsimp only
  rw [natAbs_signedUnits_sub]
  by_cases same : otherNegative = negative
  · obtain ⟨near, even⟩ := Grid.distance_roundRatio other magnitude
    rw [same, natAbs_signedUnits_sub]
    refine ⟨near, fun tie => ?_⟩
    rcases even tie with units_eq | even
    · exact .inl (congrArg (signedUnits negative) units_eq)
    · exact .inr even
  · -- The number of the other sign is beyond zero, which has both signs.
    obtain ⟨near, even⟩ := Grid.distance_roundRatio representable_zero magnitude
    rw [Bool.eq_not.mpr same, natAbs_signedUnits_not_sub]
    refine ⟨Nat.le_trans near (Nat.le_add_right _ _), fun tie => ?_⟩
    have units_eq : otherUnits = 0 := by omega
    subst units_eq
    rcases even tie with zero_eq | even
    · left
      rw [← zero_eq, signedUnits_zero, signedUnits_zero]
    · exact .inr even

/-- An integer is converted to the number that is nearest to it. -/
theorem isNearest_ofInt {value : Int} (small : value.natAbs ≤ 1 <<< 62) :
    (ofInt value).IsNearest value := by
  have inRange : Grid.double.roundRatio (value.natAbs * unitsPerOne) 1 < overflowUnits := by
    have rounded_le := Grid.roundRatio_le_double (value.natAbs * unitsPerOne)
    have magnitude_le := Nat.mul_le_mul_left 2 (Nat.mul_le_mul_right unitsPerOne small)
    apply Nat.lt_of_le_of_lt (Nat.le_trans rounded_le magnitude_le)
    decide +kernel
  have compared (otherNegative : Bool) {otherUnits : Nat} (other : Representable otherUnits) :=
    distance_roundRatio_signed other (value < 0) otherNegative (value.natAbs * unitsPerOne)
  rw [signedUnits_natAbs] at compared
  rw [ofInt, ofRatio, dif_pos inRange]
  constructor
  · exact fun otherNegative otherUnits other => (compared otherNegative other).1
  · exact fun otherNegative otherUnits other => (compared otherNegative other).2

/-! ## Sums and products of integers -/

section Integers

variable {left right : Int}

theorem unitsPerOne_int_pos : (0 : Int) < unitsPerOne := Int.natCast_pos.mpr unitsPerOne_pos

theorem signedUnits_not (negative : Bool) (units : Nat) :
    signedUnits (!negative) units = -signedUnits negative units := by
  cases negative <;> simp [signedUnits]

/-- The sum of numbers that are integers is their exact sum, rounded.  It is zero without a sign
unless both are zero with one. -/
theorem add_finite {leftNegative rightNegative : Bool} {leftUnits rightUnits : Nat}
    (leftRepresentable : Representable leftUnits) (rightRepresentable : Representable rightUnits)
    (left_eq : signedUnits leftNegative leftUnits = left * unitsPerOne)
    (right_eq : signedUnits rightNegative rightUnits = right * unitsPerOne)
    (signs : left + right = 0 → (leftNegative && rightNegative) = false) :
    add (.finite leftNegative leftUnits leftRepresentable)
      (.finite rightNegative rightUnits rightRepresentable) = ofInt (left + right) := by
  have total_eq : signedUnits leftNegative leftUnits + signedUnits rightNegative rightUnits =
      (left + right) * unitsPerOne := by
    rw [left_eq, right_eq, Int.add_mul]
  simp only [add, total_eq]
  by_cases zero : left + right = 0
  · rw [zero, Int.zero_mul, if_pos rfl, signs zero]
    apply (ofRatio_eq_signedZero false Nat.one_pos _).symm
    simp
  · have total_ne : (left + right) * unitsPerOne ≠ 0 :=
      Int.mul_ne_zero zero (Int.ne_of_gt unitsPerOne_int_pos)
    have negative_iff : (left + right) * unitsPerOne < 0 ↔ left + right < 0 := by
      constructor
      · intro total_neg
        rw [Int.mul_comm] at total_neg
        exact Int.neg_of_mul_neg_right total_neg unitsPerOne_int_pos
      · exact fun sum_neg => Int.mul_neg_of_neg_of_pos sum_neg unitsPerOne_int_pos
    rw [if_neg total_ne, Int.natAbs_mul, Int.natAbs_natCast, decide_eq_decide.mpr negative_iff]
    rfl

theorem product_neg_iff (nonzero : left * right ≠ 0) :
    left * right < 0 ↔ ¬(left < 0 ↔ right < 0) := by
  obtain ⟨left_ne, right_ne⟩ := Int.mul_ne_zero_iff.mp nonzero
  rw [mul_neg_iff]
  omega

variable (left_small : left.natAbs ≤ exactBound) (right_small : right.natAbs ≤ exactBound)

include left_small right_small

theorem add_ofInt : add (ofInt left) (ofInt right) = ofInt (left + right) := by
  rw [ofInt_eq_finite left_small, ofInt_eq_finite right_small]
  apply add_finite _ _ (signedUnits_natAbs left) (signedUnits_natAbs right)
  intro zero
  rw [Bool.and_eq_false_iff, decide_eq_false_iff_not, decide_eq_false_iff_not]
  omega

theorem subtract_ofInt : subtract (ofInt left) (ofInt right) = ofInt (left - right) := by
  rw [subtract, ofInt_eq_finite left_small, ofInt_eq_finite right_small, negate]
  apply add_finite _ _ (signedUnits_natAbs left)
  · rw [signedUnits_not, signedUnits_natAbs, Int.neg_mul]
  · intro zero
    rw [Bool.and_eq_false_iff, Bool.not_eq_false', decide_eq_false_iff_not, decide_eq_true_eq]
    omega

/-- The product of small integers is their exact product, rounded, if it is not zero. -/
theorem multiply_ofInt (nonzero : left * right ≠ 0) :
    multiply (ofInt left) (ofInt right) = ofInt (left * right) := by
  have units_eq : left.natAbs * unitsPerOne * (right.natAbs * unitsPerOne) =
      (left * right).natAbs * unitsPerOne * unitsPerOne := by
    rw [Int.natAbs_mul, Nat.mul_mul_mul_comm, ← Nat.mul_assoc]
  have negative_eq : (decide (left < 0) != decide (right < 0)) = decide (left * right < 0) := by
    rw [Bool.eq_iff_iff, bne_iff_ne, ne_eq, decide_eq_decide, decide_eq_true_eq]
    exact (product_neg_iff nonzero).symm
  rw [ofInt_eq_finite left_small, ofInt_eq_finite right_small]
  simp only [multiply, units_eq, negative_eq]
  have scaled := Grid.double.roundRatio_mul_right unitsPerOne_pos
    ((left * right).natAbs * unitsPerOne) 1
  rw [Nat.one_mul] at scaled
  simp only [ofRatio, scaled]
  rfl

end Integers

end Binary64

end ScriptMachine
