import ScriptMachine.Proofs.Binary64.Integers
import ScriptMachine.Proofs.Decimal.Grammar
import ScriptMachine.Value.Conversion

/-!
# Numeric texts

A text is a number if what stands between the white space at its ends is a numeral, and the numeral
says which number it is.  `Value.numeric_text_grammar` states this for every text, together
with what conversions make of it.  They never give `nan`, they give an infinity or a zero where the
exact value is out of range, and they give zero for every text that is no numeral.

Texts are filtered by their characters before they are read, and what is read may be a word as well
as a numeral.  `numberOfText?_eq` states that the two stages together admit the numerals and nothing
else: each of the words has an `n`, which the filter keeps out, and every numeral passes it.

That numbers out of range are recognised by their exponents alone is a shortcut.
`Decimal.toBinary64_eq_ofRatio` states that it always agrees with rounding the exact value.
-/

namespace ScriptMachine

/-! ## White space at the ends of texts -/

/-- What is left of a text when all white space at its ends is taken off. -/
def IsTrimmed (text core : List Char) : Prop :=
  ∃ before after, text = before ++ (core ++ after) ∧
    (∀ char ∈ before, isBlank char = true) ∧ (∀ char ∈ after, isBlank char = true) ∧
    (∀ char ∈ core.head?, isBlank char = false) ∧ ∀ char ∈ core.getLast?, isBlank char = false

theorem isBlank_of_mem_takeWhile {text : List Char} {char : Char}
    (member : char ∈ text.takeWhile isBlank) : isBlank char = true :=
  List.all_eq_true.mp List.all_takeWhile char member

theorem isBlank_of_mem_head?_dropWhile {text : List Char} {char : Char}
    (head : char ∈ (text.dropWhile isBlank).head?) : isBlank char = false := by
  have stops := List.head?_dropWhile_not isBlank text
  rw [Option.mem_def.mp head] at stops
  exact stops

theorem isTrimmed_trimBlank (text : List Char) : IsTrimmed text (trimBlank text) := by
  have front_eq := List.takeWhile_append_dropWhile (p := isBlank) (l := text)
  have begins : ∀ char ∈ (text.dropWhile isBlank).head?, isBlank char = false :=
    fun _ head => isBlank_of_mem_head?_dropWhile head
  rw [trimBlank]
  generalize text.dropWhile isBlank = begun at front_eq begins ⊢
  have back_eq := List.takeWhile_append_dropWhile (p := isBlank) (l := begun.reverse)
  rw [← List.reverse_inj, List.reverse_append, List.reverse_reverse] at back_eq
  refine ⟨text.takeWhile isBlank, (begun.reverse.takeWhile isBlank).reverse, ?_, ?_, ?_, ?_, ?_⟩
  · rw [back_eq, front_eq]
  · exact fun _ member => isBlank_of_mem_takeWhile member
  · exact fun _ member => isBlank_of_mem_takeWhile (List.mem_reverse.mp member)
  · intro char head
    apply begins char
    rw [← back_eq, List.head?_append, Option.mem_def.mp head]
    rfl
  · intro char last
    rw [List.getLast?_reverse] at last
    exact isBlank_of_mem_head?_dropWhile last

/-- Taking white space off a text leaves its one trimmed part. -/
theorem trimBlank_eq_iff {text core : List Char} : trimBlank text = core ↔ IsTrimmed text core := by
  constructor
  · rintro rfl
    exact isTrimmed_trimBlank text
  · rintro ⟨before, after, rfl, blank_before, blank_after, begins, ends⟩
    have reversed : ∀ char ∈ after.reverse, isBlank char = true := fun char member =>
      blank_after char (List.mem_reverse.mp member)
    cases core with
    | nil =>
        have blank : ∀ char ∈ before ++ after, isBlank char = true := by
          intro char member
          rcases List.mem_append.mp member with member | member
          · exact blank_before char member
          · exact blank_after char member
        have dropped := Token.dropWhile_of_stops [] blank (by simp)
        rw [List.append_nil] at dropped
        rw [List.nil_append, trimBlank, dropped]
        rfl
    | cons first rest =>
        have dropped := Token.dropWhile_of_stops ((first :: rest) ++ after) blank_before begins
        have stops : ∀ char ∈ (first :: rest).reverse.head?, isBlank char = false := by
          rw [List.head?_reverse]
          exact ends
        rw [trimBlank, dropped, List.reverse_append,
          Token.dropWhile_of_stops _ reversed stops, List.reverse_reverse]

namespace Decimal

/-! ## Exact values -/

/-- The exact value of a decimal, without its sign, is a numerator over a denominator. -/
def numerator (decimal : Decimal) : Nat := decimal.digits * powerOfTen decimal.exponent.toNat

def denominator (decimal : Decimal) : Nat := powerOfTen (-decimal.exponent).toNat

theorem powerOfTen_pos (exponent : Nat) : 0 < powerOfTen exponent :=
  Nat.pow_pos (by decide)

theorem powerOfTen_mono {small large : Nat} (le : small ≤ large) :
    powerOfTen small ≤ powerOfTen large :=
  Nat.pow_le_pow_right (by decide) le

/-- Eight is below ten. -/
theorem shiftLeft_le_powerOfTen (exponent : Nat) :
    1 <<< (3 * exponent) ≤ powerOfTen exponent := by
  rw [Nat.one_shiftLeft, Nat.pow_mul]
  exact Nat.pow_le_pow_left (by decide) exponent

theorem denominator_pos (decimal : Decimal) : 0 < decimal.denominator := powerOfTen_pos _

/-- What has an exponent above all numbers is out of range. -/
theorem overflow_of_exponent {decimal : Decimal} (nonzero : decimal.digits ≠ 0)
    (high : 310 < decimal.exponent) :
    overflowUnits * decimal.denominator ≤ decimal.numerator * unitsPerOne := by
  have denominator_eq : decimal.denominator = 1 := by
    rw [denominator, Int.toNat_of_nonpos (by omega)]
    rfl
  have overflow_le : overflowUnits ≤ powerOfTen 311 * unitsPerOne := by decide +kernel
  rw [denominator_eq, Nat.mul_one, numerator]
  apply Nat.le_trans overflow_le
  apply Nat.mul_le_mul_right
  apply Nat.le_trans (powerOfTen_mono (by omega : 311 ≤ decimal.exponent.toNat))
  exact Nat.le_mul_of_pos_left _ (Nat.pos_of_ne_zero nonzero)

/-- What has an exponent below all numbers of so many digits is nearest to zero. -/
theorem underflow_of_exponent {decimal : Decimal}
    (low : decimal.exponent < -(decimal.digits.log2 + 400 : Int)) :
    2 * (decimal.numerator * unitsPerOne) ≤ decimal.denominator := by
  have numerator_eq : decimal.numerator = decimal.digits := by
    rw [numerator, Int.toNat_of_nonpos (by omega)]
    exact Nat.mul_one _
  have digits_le : decimal.digits ≤ 1 <<< (decimal.digits.log2 + 1) := by
    rw [Nat.one_shiftLeft]
    exact Nat.le_of_lt Nat.lt_log2_self
  rw [numerator_eq]
  calc 2 * (decimal.digits * unitsPerOne)
      ≤ 2 * (1 <<< (decimal.digits.log2 + 1) * unitsPerOne) :=
        Nat.mul_le_mul_left 2 (Nat.mul_le_mul_right unitsPerOne digits_le)
    _ = 1 <<< (1 + (decimal.digits.log2 + 1 + 1074)) := by
        rw [one_shiftLeft_add 1, one_shiftLeft_add _ 1074]
        rfl
    _ ≤ 1 <<< (3 * (-decimal.exponent).toNat) := one_shiftLeft_mono (by omega)
    _ ≤ decimal.denominator := shiftLeft_le_powerOfTen _

/-- The number of a decimal is its exact value, rounded once. -/
theorem toBinary64_eq_ofRatio (decimal : Decimal) :
    decimal.toBinary64 =
      .ofRatio decimal.negative (decimal.numerator * unitsPerOne) decimal.denominator := by
  unfold toBinary64
  split
  · rename_i zero
    apply (Binary64.ofRatio_eq_signedZero _ decimal.denominator_pos _).symm
    rw [numerator, zero]
    simp
  · rename_i nonzero
    split
    · rename_i high
      exact (Binary64.ofRatio_eq_infinite _ decimal.denominator_pos
        (overflow_of_exponent nonzero high)).symm
    · split
      · rename_i low
        exact (Binary64.ofRatio_eq_signedZero _ decimal.denominator_pos
          (underflow_of_exponent low)).symm
      · split
        · rename_i nonneg
          have denominator_eq : decimal.denominator = 1 := by
            rw [denominator, Int.toNat_of_nonpos (by omega)]
            rfl
          rw [numerator, denominator_eq]
        · have numerator_eq : decimal.numerator = decimal.digits := by
            rw [numerator, Int.toNat_of_nonpos (by omega)]
            exact Nat.mul_one _
          rw [numerator_eq, denominator]

theorem toBinary64_ne_nan (decimal : Decimal) : decimal.toBinary64 ≠ .nan := by
  rw [toBinary64_eq_ofRatio]
  exact Binary64.ofRatio_ne_nan _ _ _

/-- Everything from the `1024`th power of two on is infinite. -/
theorem toBinary64_eq_infinite {decimal : Decimal}
    (huge : 1 <<< 1024 * decimal.denominator ≤ decimal.numerator) :
    decimal.toBinary64 = .infinite decimal.negative := by
  have overflow_eq : overflowUnits = 1 <<< 1024 * unitsPerOne := one_shiftLeft_add 1024 1074
  rw [toBinary64_eq_ofRatio]
  apply Binary64.ofRatio_eq_infinite _ decimal.denominator_pos
  rw [overflow_eq, Nat.mul_right_comm]
  exact Nat.mul_le_mul_right unitsPerOne huge

/-- Everything up to half of the least positive number is zero. -/
theorem toBinary64_eq_signedZero {decimal : Decimal}
    (tiny : decimal.numerator * 1 <<< 1075 ≤ decimal.denominator) :
    decimal.toBinary64 = .signedZero decimal.negative := by
  have half_eq : 1 <<< 1075 = 2 * unitsPerOne := one_shiftLeft_add 1 1074
  rw [toBinary64_eq_ofRatio]
  apply Binary64.ofRatio_eq_signedZero _ decimal.denominator_pos
  rw [Nat.mul_left_comm, ← half_eq]
  exact tiny

end Decimal

/-! ## The characters of numerals -/

/-- A text of characters that occur in numerals. -/
def OfNumeralChars (text : List Char) : Prop := ∀ char ∈ text, isNumeralChar char = true

namespace OfNumeralChars

variable {left right : List Char}

theorem append (first : OfNumeralChars left) (second : OfNumeralChars right) :
    OfNumeralChars (left ++ right) :=
  List.forall_mem_append.mpr ⟨first, second⟩

theorem cons {char : Char} (isNumeral : isNumeralChar char = true)
    (others : OfNumeralChars right) : OfNumeralChars (char :: right) :=
  List.forall_mem_cons.mpr ⟨isNumeral, others⟩

end OfNumeralChars

namespace Decimal

theorem IsDigits.ofNumeralChars {text : List Char} (digits : IsDigits text) :
    OfNumeralChars text := by
  intro char member
  simp [isNumeralChar, digits.2 char member]

theorem IsSign.ofNumeralChars {text : List Char} {negative : Bool}
    (signed : IsSign text negative) : OfNumeralChars text := by
  cases signed with
  | absent => exact List.forall_mem_nil _
  | plus | minus => exact .cons rfl (List.forall_mem_nil _)

theorem IsMantissa.ofNumeralChars {text whole places : List Char}
    (digits : IsMantissa text whole places) : OfNumeralChars text := by
  cases digits with
  | whole isDigits => exact isDigits.ofNumeralChars
  | pointed isDigits => exact isDigits.ofNumeralChars.append (.cons rfl (List.forall_mem_nil _))
  | placed isDigits behind =>
      exact isDigits.ofNumeralChars.append (.cons rfl behind.ofNumeralChars)
  | fraction behind => exact .cons rfl behind.ofNumeralChars

theorem IsExponent.ofNumeralChars {text : List Char} {power : Int}
    (scaled : IsExponent text power) : OfNumeralChars text := by
  cases scaled with
  | absent => exact List.forall_mem_nil _
  | marked marks signed count =>
      refine .cons ?_ (signed.ofNumeralChars.append count.ofNumeralChars)
      rcases marks with rfl | rfl <;> rfl

/-- Every numeral passes the filter. -/
theorem Denotes.ofNumeralChars {text : List Char} {decimal : Decimal}
    (denotes : Denotes text decimal) : OfNumeralChars text := by
  obtain ⟨signed, digits, scaled⟩ := denotes
  exact signed.ofNumeralChars.append (digits.ofNumeralChars.append scaled.ofNumeralChars)

end Decimal

theorem toLower_of_isDigit {char : Char} (isDigit : char.isDigit = true) :
    char.toLower = char := by
  simp only [Char.isDigit, Bool.and_eq_true, decide_eq_true_eq] at isDigit
  apply dif_neg
  rintro ⟨above, -⟩
  have below := UInt32.le_trans above isDigit.2
  exact absurd below (by decide)

/-- The letter that all words have in common is in no numeral, in either case. -/
theorem toLower_ne_of_isNumeralChar {char : Char} (isNumeral : isNumeralChar char = true) :
    char.toLower ≠ 'n' := by
  simp only [isNumeralChar, Bool.or_eq_true, decide_eq_true_eq, or_assoc] at isNumeral
  rcases isNumeral with isDigit | rfl | rfl | rfl | rfl | rfl
  · rw [toLower_of_isDigit isDigit]
    rintro rfl
    cases isDigit
  all_goals decide

/-- What passes the filter is no word, and is read as a numeral. -/
theorem OfNumeralChars.ofText?_eq {text : List Char} (passes : OfNumeralChars text) :
    Binary64.ofText? text = (Decimal.ofNumeral? text).map Decimal.toBinary64 := by
  have absent : 'n' ∉ (Decimal.splitSign text).2.map Char.toLower := by
    intro member
    obtain ⟨char, listed, lower_eq⟩ := List.mem_map.mp member
    obtain ⟨sign, text_eq, -⟩ := Decimal.exists_sign text
    have inText : char ∈ text := by
      rw [text_eq]
      exact List.mem_append_right sign listed
    exact toLower_ne_of_isNumeralChar (passes char inText) lower_eq
  have ne_word (word : List Char) (has : 'n' ∈ word) :
      (Decimal.splitSign text).2.map Char.toLower ≠ word := by
    rintro rfl
    exact absent has
  have finite := not_or.mpr
    ⟨ne_word "inf".toList (by decide), ne_word "infinity".toList (by decide)⟩
  have number := ne_word "nan".toList (by decide)
  simp only [Binary64.ofText?, if_neg finite, if_neg number]

/-- The filter and the reading of words and numerals find the numerals alone. -/
theorem numberOfText?_eq (text : String) :
    numberOfText? text = (Decimal.ofNumeral? (trimBlank text.toList)).map Decimal.toBinary64 := by
  rw [numberOfText?]
  generalize trimBlank text.toList = core
  by_cases passes : OfNumeralChars core
  · have all : core.all isNumeralChar = true := List.all_eq_true.mpr passes
    cases core with
    | nil => rfl
    | cons first rest => simp [all, passes.ofText?_eq]
  · have refused : Decimal.ofNumeral? core = none := by
      refine Option.eq_none_iff_forall_ne_some.mpr fun decimal read => passes ?_
      exact (Decimal.ofNumeral?_eq_some_iff.mp read).ofNumeralChars
    have filtered : core.all isNumeralChar = false := by
      simpa using fun all => passes (List.all_eq_true.mp all)
    simp [filtered, refused]

/-- A word is a number, but a text that consists of it is none. -/
example : Binary64.ofText? "-Infinity".toList = some (.infinite true) ∧
    numberOfText? "-Infinity" = none := by decide

/-! ## Conversions of texts -/

/-- The number of a text is the number of the decimal that it denotes. -/
theorem numberOfText?_eq_some_iff {text : String} {number : Binary64} :
    numberOfText? text = some number ↔
      ∃ core decimal, IsTrimmed text.toList core ∧ Decimal.Denotes core decimal ∧
        decimal.toBinary64 = number := by
  rw [numberOfText?_eq, Option.map_eq_some_iff]
  constructor
  · rintro ⟨decimal, read, number_eq⟩
    exact ⟨_, decimal, isTrimmed_trimBlank _, Decimal.ofNumeral?_eq_some_iff.mp read, number_eq⟩
  · rintro ⟨core, decimal, trimmed, denotes, number_eq⟩
    rw [trimBlank_eq_iff.mpr trimmed]
    exact ⟨decimal, Decimal.ofNumeral?_eq_some_iff.mpr denotes, number_eq⟩

namespace Value

/-- Texts are numbers exactly if they are numerals between white space.  A numeral converts to its
number, which is an infinity or a zero if its exact value is out of range, and never `nan`.  Every
other text converts to zero. -/
theorem numeric_text_grammar (text : String) :
    ((Value.text text).isNumber = true ↔
      ∃ core decimal, IsTrimmed text.toList core ∧ Decimal.Denotes core decimal) ∧
    (∀ core decimal, IsTrimmed text.toList core → Decimal.Denotes core decimal →
      (Value.text text).toDouble = .ok decimal.toBinary64 ∧ decimal.toBinary64 ≠ .nan ∧
        (1 <<< 1024 * decimal.denominator ≤ decimal.numerator →
          decimal.toBinary64 = .infinite decimal.negative) ∧
        (decimal.numerator * 1 <<< 1075 ≤ decimal.denominator →
          decimal.toBinary64 = .signedZero decimal.negative)) ∧
    ((Value.text text).isNumber = false →
      (Value.text text).toDouble = .ok .zero ∧ (Value.text text).toInteger = .ok 0 ∧
        (Value.text text).toLong = .ok 0) := by
  refine ⟨?_, ?_, ?_⟩
  · simp only [isNumber, Option.isSome_iff_exists, numberOfText?_eq_some_iff]
    constructor
    · rintro ⟨_, core, decimal, trimmed, denotes, -⟩
      exact ⟨core, decimal, trimmed, denotes⟩
    · rintro ⟨core, decimal, trimmed, denotes⟩
      exact ⟨_, core, decimal, trimmed, denotes, rfl⟩
  · intro core decimal trimmed denotes
    have number_eq := numberOfText?_eq_some_iff.mpr ⟨core, decimal, trimmed, denotes, rfl⟩
    refine ⟨?_, decimal.toBinary64_ne_nan, Decimal.toBinary64_eq_infinite,
      Decimal.toBinary64_eq_signedZero⟩
    rw [toDouble, numberOfText, number_eq]
    rfl
  · intro not_number
    have number_eq : numberOfText text = .zero := by
      rw [numberOfText, Option.not_isSome_iff_eq_none.mp (ne_true_of_eq_false not_number)]
      rfl
    refine ⟨?_, ?_, ?_⟩
    · rw [toDouble, number_eq]
    · rw [toInteger, number_eq]
      rfl
    · rw [toLong, number_eq]
      rfl

/-- A fraction with a sign and an exponent between blanks, and an exponent out of range. -/
theorem numeric_text_grammar_paddedFraction :
    (Value.text " +.5E2\n").toDouble = .ok (Decimal.toBinary64 ⟨false, 5, 1⟩) ∧
      (Value.text "-1e309").toDouble = .ok (.infinite true) ∧
      (Value.text "1e").toDouble = .ok .zero := by
  have fraction := (numeric_text_grammar " +.5E2\n").2.1 ['+', '.', '5', 'E', '2'] ⟨false, 5, 1⟩
    (trimBlank_eq_iff.mp (by decide)) (Decimal.ofNumeral?_eq_some_iff.mp (by decide))
  have huge := (numeric_text_grammar "-1e309").2.1 ['-', '1', 'e', '3', '0', '9'] ⟨true, 1, 309⟩
    (trimBlank_eq_iff.mp (by decide)) (Decimal.ofNumeral?_eq_some_iff.mp (by decide))
  have unfinished := (numeric_text_grammar "1e").2.2 (by decide)
  rw [huge.2.2.1 (by decide +kernel)] at huge
  exact ⟨fraction.1, huge.1, unfinished.1⟩

end Value

end ScriptMachine
