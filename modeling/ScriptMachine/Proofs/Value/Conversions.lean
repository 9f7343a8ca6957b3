import ScriptMachine.Proofs.Binary64.Nearest
import ScriptMachine.Proofs.Decimal.Texts

/-!
# Agreement of the numeric conversions

The conversions to truth values, to integers of 32 and 64 bits and to numbers of single and double
precision are defined one by one.  All of them come from the conversion to double precision: the
greater integer is the integer part, taken to the nearest bound when it is out of range, the smaller
one is the greater one taken to its own bounds, and a value is true if the number is greater than
zero.  The only exception are the affirmative words.
-/

namespace ScriptMachine

namespace Binary64

/-! ## Integer parts -/

/-- The integer part of a number; infinities have one beyond all bounds, and that of `nan` is
zero. -/
def integerPart (number : Binary64) : Int :=
  match number.position? with
  | some position => position.tdiv unitsPerOne
  | none => 0

/-- A number is greater than zero. -/
def IsPositive (number : Binary64) : Prop :=
  ∃ position, number.position? = some position ∧ 0 < position

theorem positive_iff {number : Binary64} : number.positive = true ↔ number.IsPositive := by
  have zero_eq : zero.position? = some 0 := rfl
  unfold positive below IsPositive
  rw [zero_eq]
  cases number.position? <;> simp

theorem integerPart_of_position {number : Binary64} {position : Int}
    (position_eq : number.position? = some position) :
    number.integerPart = position.tdiv unitsPerOne := by
  rw [integerPart, position_eq]

theorem tdiv_signedUnits (negative : Bool) (units : Nat) :
    (signedUnits negative units).tdiv unitsPerOne = signedUnits negative (units / unitsPerOne) := by
  cases negative with
  | false => exact (Int.ofNat_tdiv units unitsPerOne).symm
  | true =>
      simp only [signedUnits, if_true, Int.neg_tdiv, Int.ofNat_tdiv]

theorem integerPart_finite (negative : Bool) (units : Nat) (representable : Representable units) :
    (finite negative units representable).integerPart =
      signedUnits negative (units / unitsPerOne) :=
  tdiv_signedUnits negative units

theorem integerPart_infinite (negative : Bool) :
    (infinite negative).integerPart = signedUnits negative (1 <<< 1024) := by
  have quotient_eq : overflowUnits / unitsPerOne = 1 <<< 1024 := by decide +kernel
  rw [← quotient_eq]
  exact tdiv_signedUnits negative overflowUnits

/-- Truncation between bounds that are numbers takes the integer part to the nearest of them. -/
theorem truncatedBetween_eq {low high : Int} (low_nonpos : low ≤ 0) (high_nonneg : 0 ≤ high)
    (low_small : low.natAbs ≤ 1 <<< 1024) (high_small : high.natAbs ≤ 1 <<< 1024)
    (number : Binary64) :
    number.truncatedBetween low high = max low (min high number.integerPart) := by
  cases number with
  | nan =>
      change 0 = max low (min high 0)
      omega
  | infinite negative =>
      rw [integerPart_infinite]
      generalize 1 <<< 1024 = bound at low_small high_small
      cases negative <;>
        simp only [truncatedBetween, signedUnits, Bool.false_eq_true, if_true, if_false] <;> omega
  | finite negative units representable => rw [integerPart_finite, truncatedBetween]

theorem max_min_lt {low high bound : Int} (low_le : low ≤ high) (upper : high < bound)
    (value : Int) : max low (min high value) < bound := by
  omega

theorem toInt_toInt64 (number : Binary64) :
    number.toInt64.toInt =
      max Int64.minValue.toInt (min Int64.maxValue.toInt number.integerPart) := by
  rw [toInt64, truncatedBetween_eq (by decide) (by decide) (by decide +kernel) (by decide +kernel)]
  exact Int64.toInt_ofInt_of_le (Int.le_max_left _ _) (max_min_lt (by decide) (by decide) _)

/-- The smaller integer is the greater one, taken to the nearest bound when it is out of range. -/
theorem toInt_toInt32 (number : Binary64) :
    number.toInt32.toInt =
      max Int32.minValue.toInt (min Int32.maxValue.toInt number.toInt64.toInt) := by
  have low_le_low : Int64.minValue.toInt ≤ Int32.minValue.toInt := by decide
  have high_le_high : Int32.maxValue.toInt ≤ Int64.maxValue.toInt := by decide
  have clamp_eq :
      max Int32.minValue.toInt (min Int32.maxValue.toInt number.toInt64.toInt) =
        max Int32.minValue.toInt (min Int32.maxValue.toInt number.integerPart) := by
    rw [toInt_toInt64]
    omega
  rw [clamp_eq, toInt32,
    truncatedBetween_eq (by decide) (by decide) (by decide +kernel) (by decide +kernel)]
  exact Int32.toInt_ofInt_of_le (Int.le_max_left _ _) (max_min_lt (by decide) (by decide) _)

section Integers

variable {value : Int} (small : value.natAbs ≤ exactBound)

include small

theorem integerPart_ofInt : (ofInt value).integerPart = value := by
  rw [integerPart_of_position (position?_ofInt small)]
  exact Int.mul_tdiv_cancel value (Int.ne_of_gt unitsPerOne_int_pos)

theorem isPositive_ofInt : (ofInt value).IsPositive ↔ 0 < value := by
  have scaled : 0 * (unitsPerOne : Int) < value * unitsPerOne ↔ 0 < value :=
    Int.mul_lt_mul_right unitsPerOne_int_pos
  rw [Int.zero_mul] at scaled
  simp only [IsPositive, position?_ofInt small, Option.some.injEq, exists_eq_left', scaled]

end Integers

end Binary64

namespace Value

/-- A text is one of the affirmative words in any case, between white space. -/
def IsAffirmative (value : Value) : Prop :=
  ∃ text core, value = .text text ∧ IsTrimmed text.toList core ∧
    (core.map Char.toLower = "true".toList ∨ core.map Char.toLower = "yes".toList)

theorem isAffirmative_text {text : String} :
    (Value.text text).IsAffirmative ↔ isAffirmative text = true := by
  simp only [IsAffirmative, isAffirmative, Bool.or_eq_true, decide_eq_true_eq, ← trimBlank_eq_iff]
  constructor
  · rintro ⟨_, _, ⟨⟩, rfl, word⟩
    exact word
  · exact fun word => ⟨text, _, rfl, rfl, word⟩

/-! ## Conversions -/

variable {value : Value} {number : Binary64}

/-- A value that converts to a number has all other conversions, and they agree with the number. -/
theorem conversions_of_toDouble (converted : value.toDouble = .ok number) :
    ∃ (truth : Bool) (integer : Int32) (long : Int64),
      value.toBool = .ok truth ∧ value.toInteger = .ok integer ∧ value.toLong = .ok long ∧
        value.toFloat = .ok number.toSingle ∧
        (truth = true ↔ number.IsPositive ∨ value.IsAffirmative) ∧
        integer.toInt = max Int32.minValue.toInt (min Int32.maxValue.toInt long.toInt) ∧
        long.toInt = max Int64.minValue.toInt (min Int64.maxValue.toInt number.integerPart) := by
  cases value with
  | integer value =>
      cases converted
      have small := Binary64.natAbs_toInt_le_exactBound value
      have low_le := Int32.minValue_le_toInt value
      have le_high := Int32.toInt_le value
      have low_le_low : Int64.minValue.toInt ≤ Int32.minValue.toInt := by decide
      have high_le_high : Int32.maxValue.toInt ≤ Int64.maxValue.toInt := by decide
      refine ⟨_, _, _, rfl, rfl, rfl, rfl, ?_, ?_, ?_⟩
      · simp [Binary64.isPositive_ofInt small, IsAffirmative, Int32.lt_iff_toInt_lt]
      · rw [Int32.toInt_toInt64]
        omega
      · rw [Int32.toInt_toInt64, Binary64.integerPart_ofInt small]
        omega
  | number number =>
      cases converted
      refine ⟨_, _, _, rfl, rfl, rfl, rfl, ?_, number.toInt_toInt32, number.toInt_toInt64⟩
      simp [Binary64.positive_iff, IsAffirmative]
  | text text =>
      cases converted
      refine ⟨_, _, _, rfl, rfl, rfl, rfl, ?_, (numberOfText text).toInt_toInt32,
        (numberOfText text).toInt_toInt64⟩
      rw [isAffirmative_text, ← Binary64.positive_iff, Bool.or_eq_true, or_comm]
  | none | list | object | function | nativeFunction | foreign => cases converted

/-- A value that does not convert to a number has no other conversion. -/
theorem conversions_of_toDouble_error {mismatch : Mismatch}
    (refused : value.toDouble = .error mismatch) :
    value.toBool = .error ⟨.bool, value.kind⟩ ∧
      value.toInteger = .error ⟨.integer, value.kind⟩ ∧
      value.toLong = .error ⟨.long, value.kind⟩ ∧ value.toFloat = .error ⟨.float, value.kind⟩ ∧
      value.toDouble = .error ⟨.double, value.kind⟩ := by
  cases value with
  | integer | number | text => cases refused
  | none | list | object | function | nativeFunction | foreign => exact ⟨rfl, rfl, rfl, rfl, rfl⟩

/-- For every value, either all numeric conversions succeed and agree with the one to double
precision, or all of them fail, each by its own name and with the kind of the value. -/
theorem numeric_conversions_agree (value : Value) :
    (∃ (truth : Bool) (integer : Int32) (long : Int64) (single double : Binary64),
      value.toBool = .ok truth ∧ value.toInteger = .ok integer ∧ value.toLong = .ok long ∧
        value.toFloat = .ok single ∧ value.toDouble = .ok double ∧
        (truth = true ↔ double.IsPositive ∨ value.IsAffirmative) ∧
        integer.toInt = max Int32.minValue.toInt (min Int32.maxValue.toInt long.toInt) ∧
        long.toInt = max Int64.minValue.toInt (min Int64.maxValue.toInt double.integerPart) ∧
        single = double.toSingle) ∨
    (value.toBool = .error ⟨.bool, value.kind⟩ ∧
      value.toInteger = .error ⟨.integer, value.kind⟩ ∧
      value.toLong = .error ⟨.long, value.kind⟩ ∧ value.toFloat = .error ⟨.float, value.kind⟩ ∧
      value.toDouble = .error ⟨.double, value.kind⟩) := by
  cases converted : value.toDouble with
  | ok double =>
      obtain ⟨truth, integer, long, truth_eq, integer_eq, long_eq, single_eq, truth_iff, clamped,
        truncated⟩ := conversions_of_toDouble converted
      exact .inl ⟨truth, integer, long, _, double, truth_eq, integer_eq, long_eq, single_eq,
        rfl, truth_iff, clamped, truncated, rfl⟩
  | error mismatch =>
      rw [← converted]
      exact .inr (conversions_of_toDouble_error converted)

end Value

end ScriptMachine
