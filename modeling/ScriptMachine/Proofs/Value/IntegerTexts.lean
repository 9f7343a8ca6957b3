import ScriptMachine.Proofs.Binary64.Nearest
import ScriptMachine.Proofs.Datum.Numerals
import ScriptMachine.Proofs.Decimal.Texts

/-!
# Texts of integers

An integer is written with a minus if it is negative and in decimal digits.  This is a numeral that
denotes the integer.  No numeral has white space in it, so nothing is taken off the text when it is
read, and the number that it is read as is that of the integer.  An integer of 32 bits is small
enough to be its own number, from which all conversions to integers get it back.
-/

namespace ScriptMachine

/-! ## White space in numerals -/

theorem isBlank_of_isDigit {char : Char} (isDigit : char.isDigit = true) :
    isBlank char = false := by
  have range : 48 ≤ char.toNat ∧ char.toNat ≤ 57 := Char.isDigit_iff_toNat.mp isDigit
  simp only [isBlank, CharRanges.contains, blankRanges, List.any_cons, List.any_nil]
  grind

/-- A text without white space is what is left when white space is taken off it. -/
theorem isTrimmed_of_not_blank {text : List Char}
    (not_blank : ∀ char ∈ text, isBlank char = false) : IsTrimmed text text :=
  ⟨[], [], by simp, by simp, by simp, fun _ head => not_blank _ (List.mem_of_mem_head? head),
    fun _ last => not_blank _ (List.mem_of_mem_getLast? last)⟩

namespace Decimal

theorem IsSign.not_blank {sign : List Char} {negative : Bool} (signed : IsSign sign negative) :
    ∀ char ∈ sign, isBlank char = false := by
  cases signed with
  | absent => exact List.forall_mem_nil _
  | plus | minus => exact List.forall_mem_singleton.mpr (by decide)

theorem IsDigits.not_blank {digits : List Char} (isDigits : IsDigits digits) :
    ∀ char ∈ digits, isBlank char = false :=
  fun char member => isBlank_of_isDigit (isDigits.2 char member)

theorem IsMantissa.not_blank {mantissa whole places : List Char}
    (digits : IsMantissa mantissa whole places) : ∀ char ∈ mantissa, isBlank char = false := by
  have point : isBlank '.' = false := by decide
  cases digits with
  | whole isDigits => exact isDigits.not_blank
  | pointed isDigits =>
      exact List.forall_mem_append.mpr ⟨isDigits.not_blank, List.forall_mem_singleton.mpr point⟩
  | placed isDigits behind =>
      exact List.forall_mem_append.mpr
        ⟨isDigits.not_blank, List.forall_mem_cons.mpr ⟨point, behind.not_blank⟩⟩
  | fraction behind => exact List.forall_mem_cons.mpr ⟨point, behind.not_blank⟩

theorem IsExponent.not_blank {text : List Char} {power : Int} (scaled : IsExponent text power) :
    ∀ char ∈ text, isBlank char = false := by
  cases scaled with
  | absent => exact List.forall_mem_nil _
  | @marked mark _ _ _ marks signed count =>
      have mark_not_blank : isBlank mark = false := by
        rcases marks with rfl | rfl <;> decide
      exact List.forall_mem_cons.mpr
        ⟨mark_not_blank, List.forall_mem_append.mpr ⟨signed.not_blank, count.not_blank⟩⟩

theorem Denotes.isTrimmed {text : List Char} {decimal : Decimal} (denotes : Denotes text decimal) :
    IsTrimmed text text := by
  obtain ⟨signed, digits, scaled⟩ := denotes
  apply isTrimmed_of_not_blank
  exact List.forall_mem_append.mpr
    ⟨signed.not_blank, List.forall_mem_append.mpr ⟨digits.not_blank, scaled.not_blank⟩⟩

end Decimal

/-- A numeral without anything around it is the number that it denotes. -/
theorem numberOfText?_of_denotes {text : String} {decimal : Decimal}
    (denotes : Decimal.Denotes text.toList decimal) :
    numberOfText? text = some decimal.toBinary64 :=
  numberOfText?_eq_some_iff.mpr ⟨_, _, denotes.isTrimmed, denotes, rfl⟩

/-! ## Integers as decimals -/

namespace Decimal

/-- The decimal of an integer. -/
def ofInt (value : Int) : Decimal := ⟨value < 0, value.natAbs, 0⟩

theorem toBinary64_ofInt (value : Int) : (ofInt value).toBinary64 = .ofInt value := by
  have numerator_eq : (ofInt value).numerator = value.natAbs := Nat.mul_one _
  rw [toBinary64_eq_ofRatio, numerator_eq]
  rfl

theorem isDigits_toDigits (value : Nat) : IsDigits (Nat.toDigits 10 value) :=
  ⟨Nat.toDigits_ne_nil, isDigit_toDigits value⟩

theorem exists_isSign_withSign (negative : Bool) (form : List Char) :
    ∃ sign, IsSign sign negative ∧ Token.withSign negative form = sign ++ form := by
  cases negative with
  | true => exact ⟨['-'], .minus, rfl⟩
  | false => exact ⟨[], .absent, rfl⟩

/-- The text of an integer denotes it. -/
theorem denotes_toString (value : Int) : Denotes (toString value).toList (ofInt value) := by
  have digits_eq : valueOfDigits (Nat.toDigits 10 value.natAbs) = value.natAbs :=
    Nat.ofDigitChars_ten_toDigits
  obtain ⟨sign, signed, form_eq⟩ :=
    exists_isSign_withSign (value < 0) (Nat.toDigits 10 value.natAbs)
  have denotes := Denotes.numeral signed (.whole (isDigits_toDigits value.natAbs)) .absent
  simp only [List.append_nil, digits_eq, ← form_eq, ← toList_toString_int] at denotes
  exact denotes

end Decimal

theorem numberOfText?_toString (value : Int) :
    numberOfText? (toString value) = some (.ofInt value) := by
  rw [numberOfText?_of_denotes (Decimal.denotes_toString value), Decimal.toBinary64_ofInt]

/-! ## Numbers of integers of 32 bits -/

namespace Binary64

theorem toInt32_ofInt (value : Int32) : (ofInt value.toInt).toInt32 = value := by
  have low_le := Int32.minValue_le_toInt value
  have le_high := Int32.toInt_le value
  rw [← Int32.toInt_inj, toInt_toInt32_ofInt]
  omega

theorem toInt64_ofInt (value : Int32) : (ofInt value.toInt).toInt64 = value.toInt64 := by
  have small := natAbs_toInt_le_exactBound value
  rw [← Int64.toInt_inj, toInt_toInt64_ofInt small, Int32.toInt_toInt64]

end Binary64

namespace Value

/-- Every integer has a text.  The text is a numeral that denotes the integer, and it converts to
the integer in 32 and in 64 bits and to the number that the integer itself converts to, which is
exactly the integer. -/
theorem integer_text_round_trip (value : Int32) :
    ∃ text, (integer value).toText = .ok text ∧
      Decimal.Denotes text.toList (.ofInt value.toInt) ∧
      (Value.text text).isNumber = true ∧
      (Value.text text).toInteger = .ok value ∧
      (Value.text text).toLong = .ok value.toInt64 ∧
      ∃ number, (Value.text text).toDouble = .ok number ∧ (integer value).toDouble = .ok number ∧
        number.position? = some (value.toInt * unitsPerOne) := by
  have number_eq := numberOfText?_toString value.toInt
  have converted : numberOfText (toString value.toInt) = .ofInt value.toInt := by
    rw [numberOfText, number_eq, Option.getD_some]
  refine ⟨toString value.toInt, rfl, Decimal.denotes_toString value.toInt, ?_, ?_, ?_,
    .ofInt value.toInt, ?_, rfl, ?_⟩
  · rw [isNumber, number_eq, Option.isSome_some]
  · rw [toInteger, converted, Binary64.toInt32_ofInt]
  · rw [toLong, converted, Binary64.toInt64_ofInt]
  · rw [toDouble, converted]
  · exact Binary64.position?_ofInt (Binary64.natAbs_toInt_le_exactBound value)

end Value

end ScriptMachine
