import ScriptMachine.Datum.Form
import ScriptMachine.Proofs.Datum.Reading

/-!
# Reading numbers

Integers are written in decimal digits, and read as what they are if they are within the range of
the type that is read.  Other numbers are written as a word or in positional notation, which is
one token or, if it is out of range, refused.
-/

namespace ScriptMachine

open Token (IsDecimal withSign)

/-! ## Decimal forms of integers -/

theorem isDigit_toDigits (value : Nat) : ∀ char ∈ Nat.toDigits 10 value, char.isDigit = true :=
  fun _ => Nat.isDigit_of_mem_toDigits (by decide) (by decide)

theorem isDecimal_toDigits (value : Nat) : IsDecimal (Nat.toDigits 10 value) :=
  .whole Nat.toDigits_ne_nil (isDigit_toDigits value)

theorem toList_toString_int (value : Int) :
    (toString value).toList = withSign (value < 0) (Nat.toDigits 10 value.natAbs) := by
  rw [Int.toString_eq_repr, Int.repr_eq_if]
  by_cases negative : value < 0
  · have natAbs_eq : (-value).toNat = value.natAbs := by omega
    simp [negative, Int.not_le.mpr negative, natAbs_eq, withSign, Nat.repr_eq_ofList_toDigits]
  · have natAbs_eq : value.toNat = value.natAbs := by omega
    simp [negative, Int.not_lt.mp negative, natAbs_eq, withSign, Nat.repr_eq_ofList_toDigits]

namespace Numeral

theorem splitSign_withSign {form : List Char} (decimal : IsDecimal form) (negative : Bool) :
    Decimal.splitSign (withSign negative form) = (negative, form) := by
  cases negative with
  | true => rfl
  | false =>
      obtain ⟨first, rest, rfl, isDigit, _⟩ := decimal.splits
      simp only [withSign, Bool.false_eq_true, if_false]
      unfold Decimal.splitSign
      split
      · simp_all
      · simp_all
      · rfl

/-- Digits alone stand for an integer. -/
theorem ofUnsigned?_digits {digits : List Char} (nonempty : digits ≠ [])
    (all : ∀ char ∈ digits, char.isDigit = true) (signed negative : Bool) :
    ofUnsigned? signed negative digits =
      (integer? signed negative (Decimal.valueOfDigits digits)).map .integer := by
  have not_word {word : List Char} (lettered : ∃ char ∈ word, char.isDigit = false) :
      digits ≠ word := by
    rintro rfl
    obtain ⟨char, member, not_digit⟩ := lettered
    simp [all char member] at not_digit
  have whole_eq := Token.takeWhile_of_stops [] (Token.isWholePart_of_isDigit all) (by simp)
  have rest_eq := Token.dropWhile_of_stops [] (Token.isWholePart_of_isDigit all) (by simp)
  rw [List.append_nil] at whole_eq rest_eq
  rw [ofUnsigned?.eq_def, if_neg (not_word ⟨'n', by decide, by decide⟩),
    if_neg (not_word ⟨'N', by decide, by decide⟩)]
  dsimp only
  split
  · rename_i bits places inRadix
    split at inRadix
    · rename_i mark places
      have isDigit := all mark (by simp)
      simp [Token.digitBits?_of_isDigit isDigit] at inRadix
    · contradiction
  · simp only [whole_eq, rest_eq, List.filter_eq_self.mpr all, nonempty, if_true, if_false]
    cases integer? signed negative (Decimal.valueOfDigits digits) <;> rfl

/-- Decimal digits with a sign before them stand for the integer, if its type has it. -/
theorem ofForm?_toDigits (negative : Bool) (value : Nat) :
    ofForm? (withSign negative (Nat.toDigits 10 value)) =
      (integer? negative negative value).map .integer := by
  have signed_eq : decide (Nat.toDigits 10 value ≠ withSign negative (Nat.toDigits 10 value)) =
      negative := by
    cases negative <;> simp [withSign]
  have value_eq : Decimal.valueOfDigits (Nat.toDigits 10 value) = value :=
    Nat.ofDigitChars_ten_toDigits
  simp only [ofForm?, splitSign_withSign (isDecimal_toDigits value), signed_eq,
    ofUnsigned?_digits Nat.toDigits_ne_nil (isDigit_toDigits value), value_eq]

end Numeral

namespace Datum

/-! ## Reading integers -/

theorem integer?_natural {value : Nat} (inRange : value < UInt64.size) :
    (natural value).integer? = some (value : Int) := by
  have form_eq := Numeral.ofForm?_toDigits false value
  simp only [withSign, Numeral.integer?, Bool.false_eq_true, if_false, inRange, if_true,
    Option.map_some] at form_eq
  simp only [natural, integer?, form_eq]

theorem legible_natural {value : Nat} (inRange : value < UInt64.size) :
    (natural value).Legible := by
  have form_eq := Numeral.ofForm?_toDigits false value
  refine .atom (Token.scans_decimal (isDecimal_toDigits value) false ?_)
  simp [form_eq, Numeral.integer?, inRange]

/-- Machine words are read from their digits. -/
theorem word64?_natural (value : UInt64) : (natural value.toNat).word64? = some value := by
  have inRange : (value.toNat : Int) < UInt64.size := Int.ofNat_lt.mpr value.toNat_lt_size
  rw [word64?, integer?_natural value.toNat_lt_size, Option.bind_some,
    if_pos ⟨Int.natCast_nonneg _, inRange⟩, Int.toNat_natCast, UInt64.ofNat_toNat]

/-- Octets are read from their digits. -/
theorem octet?_natural (value : UInt8) : (natural value.toNat).octet? = some value := by
  have inRange : (value.toNat : Int) < UInt8.size := Int.ofNat_lt.mpr value.toNat_lt_size
  have inWord : value.toNat < UInt64.size := Nat.lt_trans value.toNat_lt_size (by decide)
  rw [octet?, integer?_natural inWord, Option.bind_some,
    if_pos ⟨Int.natCast_nonneg _, inRange⟩, Int.toNat_natCast, UInt8.ofNat_toNat]

/-- The sign and digits of a signed machine word stand for it. -/
theorem ofForm?_signed (value : Int64) :
    Numeral.ofForm? (toString value.toInt).toList = some (.integer value.toInt) := by
  have lower := value.minValue_le_toInt
  have upper := value.toInt_le
  rw [toList_toString_int, Numeral.ofForm?_toDigits]
  by_cases negative : value.toInt < 0
  · have value_eq : -(value.toInt.natAbs : Int) = value.toInt := by omega
    simp only [Numeral.integer?, negative, decide_true, if_true, value_eq, lower, upper, and_self,
      Option.map_some]
  · have value_eq : (value.toInt.natAbs : Int) = value.toInt := by omega
    have inRange : value.toInt.natAbs < UInt64.size := by
      have bound : Int64.maxValue.toInt < UInt64.size := by decide
      omega
    simp only [Numeral.integer?, negative, decide_false, Bool.false_eq_true, if_false, value_eq,
      inRange, if_true, Option.map_some]

/-- Signed machine words are read from their sign and digits. -/
theorem signed64?_toString (value : Int64) :
    signed64? (.atom (.number (toString value.toInt).toList)) = some value := by
  have integer_eq : integer? (.atom (.number (toString value.toInt).toList)) =
      some value.toInt := by
    simp only [integer?, ofForm?_signed]
  rw [signed64?, integer_eq, Option.bind_some,
    if_pos ⟨value.minValue_le_toInt, value.toInt_le⟩, Int64.ofInt_toInt]

theorem legible_signed (value : Int64) :
    Legible (.atom (.number (toString value.toInt).toList)) := by
  have form_eq := ofForm?_signed value
  rw [toList_toString_int] at form_eq ⊢
  exact .atom (Token.scans_decimal (isDecimal_toDigits _) _ (by simp [form_eq]))

end Datum

/-! ## Other numbers -/

namespace Decimal

theorem isDecimal_pointed (digits places : Nat) : IsDecimal (pointed digits places) := by
  unfold pointed
  generalize dropFinalZeros digits places = dropped
  obtain ⟨digits, places⟩ := dropped
  dsimp only
  split
  · exact isDecimal_toDigits digits
  · refine .pointed Nat.toDigits_ne_nil (isDigit_toDigits _) ?_
    intro char member
    rcases List.mem_append.mp member with zero | behind
    · rw [List.eq_of_mem_replicate zero]
      rfl
    · exact isDigit_toDigits _ char behind

/-- Positional notation is decimal, with a sign for negative numbers. -/
theorem toList_positional (decimal : Decimal) :
    ∃ form, IsDecimal form ∧ decimal.positional.toList = withSign decimal.negative form := by
  refine ⟨_, ?_, String.toList_ofList⟩
  split
  · exact isDecimal_toDigits _
  · exact isDecimal_pointed _ _

end Decimal

namespace Datum

/-- A decimal form is the form of a number before every end, or is refused there. -/
theorem formed_decimal {form : List Char} (decimal : IsDecimal form) (negative : Bool) :
    Formed (.atom (.number (withSign negative form))) := by
  cases numeral : Numeral.ofForm? (withSign negative form) with
  | some => exact .atom (Token.scans_decimal decimal negative (by simp [numeral]))
  | none =>
      refine .refused fun ends => ?_
      have scans := Token.scansTo_decimal decimal negative ends
      rwa [Token.ofForm?, numeral] at scans

/-- The text of a number is formed: it is a word, or in positional notation. -/
theorem formed_number (value : Binary64) :
    Formed (.atom (.number (value.text programNumberWords).toList)) := by
  cases value with
  | nan => exact .atom (Token.scans_numberWords (.inr (.inr rfl)))
  | infinite negative =>
      cases negative with
      | true => exact .atom (Token.scans_numberWords (.inr (.inl (by decide))))
      | false => exact .atom (Token.scans_numberWords (.inl rfl))
  | finite negative units bounded =>
      obtain ⟨form, decimal, text_eq⟩ := (Decimal.shortest negative units).toList_positional
      rw [Binary64.text, text_eq]
      exact formed_decimal decimal _

end Datum

end ScriptMachine
