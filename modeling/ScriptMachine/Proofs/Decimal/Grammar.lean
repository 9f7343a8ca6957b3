import ScriptMachine.Decimal.Numeral
import ScriptMachine.Proofs.Datum.Scanning

/-!
# The grammar of decimal numerals

A numeral is an optional sign, a mantissa and an optional exponent.  The mantissa is made of digits
with at most one point, which may stand among them, before them or behind them, and the exponent
of a mark, an optional sign and digits.  Where digits are asked for there is at least one.

The grammar says of each text which decimal it denotes, without a word on how texts are read.
`Decimal.ofNumeral?_eq_some_iff` states that reading finds exactly these decimals, so that a text
denotes one decimal at most and everything that is no numeral is refused.
-/

namespace ScriptMachine

namespace Decimal

/-! ## Numerals -/

/-- At least one digit, and nothing else. -/
def IsDigits (text : List Char) : Prop :=
  text ≠ [] ∧ ∀ char ∈ text, char.isDigit = true

/-- An optional sign, and whether it is a minus. -/
inductive IsSign : List Char → Bool → Prop where
  | absent : IsSign [] false
  | plus : IsSign ['+'] false
  | minus : IsSign ['-'] true

/-- A mantissa, with its digits before the point and behind it. -/
inductive IsMantissa : List Char → List Char → List Char → Prop where
  | whole {whole : List Char} (digits : IsDigits whole) : IsMantissa whole whole []
  | pointed {whole : List Char} (digits : IsDigits whole) : IsMantissa (whole ++ ['.']) whole []
  | placed {whole places : List Char} (digits : IsDigits whole) (behind : IsDigits places) :
      IsMantissa (whole ++ '.' :: places) whole places
  | fraction {places : List Char} (behind : IsDigits places) :
      IsMantissa ('.' :: places) [] places

/-- An optional exponent, and the power that it stands for. -/
inductive IsExponent : List Char → Int → Prop where
  | absent : IsExponent [] 0
  | marked {mark : Char} {sign digits : List Char} {negative : Bool}
      (marks : mark = 'e' ∨ mark = 'E') (signed : IsSign sign negative) (count : IsDigits digits) :
      IsExponent (mark :: (sign ++ digits))
        (if negative then -(valueOfDigits digits : Int) else valueOfDigits digits)

/-- A numeral, and the decimal that it denotes. -/
inductive Denotes : List Char → Decimal → Prop where
  | numeral {sign mantissa exponent whole places : List Char} {negative : Bool} {power : Int}
      (signed : IsSign sign negative) (digits : IsMantissa mantissa whole places)
      (scaled : IsExponent exponent power) :
      Denotes (sign ++ (mantissa ++ exponent))
        ⟨negative, valueOfDigits (whole ++ places), power - places.length⟩

/-! ## Signs and digits -/

/-- A character with which no sign begins. -/
def IsUnsigned (text : List Char) : Prop := ∀ char ∈ text.head?, char ≠ '-' ∧ char ≠ '+'

/-- A text that continues no digits. -/
def EndsDigits (text : List Char) : Prop := ∀ char ∈ text.head?, char.isDigit = false

theorem isUnsigned_of_isDigit {first : Char} (isDigit : first.isDigit = true) (rest : List Char) :
    IsUnsigned (first :: rest) := by
  intro char head
  cases head
  constructor <;> rintro rfl <;> cases isDigit

theorem IsDigits.isUnsigned {digits : List Char} (isDigits : IsDigits digits) (rest : List Char) :
    IsUnsigned (digits ++ rest) := by
  rcases isDigits with ⟨nonempty, all⟩
  cases digits with
  | nil => exact absurd rfl nonempty
  | cons first others =>
      have isDigit := all first List.mem_cons_self
      exact isUnsigned_of_isDigit isDigit (others ++ rest)

theorem splitSign_of_isUnsigned {text : List Char} (unsigned : IsUnsigned text) :
    splitSign text = (false, text) := by
  unfold splitSign
  split
  · exact absurd rfl (unsigned '-' rfl).1
  · exact absurd rfl (unsigned '+' rfl).2
  · rfl

/-- A sign is taken off what begins with none. -/
theorem splitSign_append {sign text : List Char} {negative : Bool} (signed : IsSign sign negative)
    (unsigned : IsUnsigned text) : splitSign (sign ++ text) = (negative, text) := by
  cases signed with
  | absent => exact splitSign_of_isUnsigned unsigned
  | plus | minus => rfl

/-- What is taken off a text is a sign. -/
theorem exists_sign (text : List Char) :
    ∃ sign, text = sign ++ (splitSign text).2 ∧ IsSign sign (splitSign text).1 := by
  unfold splitSign
  split
  · exact ⟨['-'], rfl, .minus⟩
  · exact ⟨['+'], rfl, .plus⟩
  · exact ⟨[], rfl, .absent⟩

/-- Digits are taken off what continues none. -/
theorem splitDigits_append {digits text : List Char} (all : ∀ char ∈ digits, char.isDigit = true)
    (ends : EndsDigits text) : splitDigits (digits ++ text) = (digits, text) :=
  Prod.ext (Token.takeWhile_of_stops text all ends) (Token.dropWhile_of_stops text all ends)

theorem splitDigits_of_ends {text : List Char} (ends : EndsDigits text) :
    splitDigits text = ([], text) :=
  splitDigits_append (List.forall_mem_nil _) ends

theorem append_splitDigits (text : List Char) :
    (splitDigits text).1 ++ (splitDigits text).2 = text :=
  List.takeWhile_append_dropWhile

theorem isDigits_fst_splitDigits {text : List Char} (nonempty : (splitDigits text).1 ≠ []) :
    IsDigits (splitDigits text).1 :=
  ⟨nonempty, fun _ member => List.all_eq_true.mp List.all_takeWhile _ member⟩

/-! ## Exponents -/

theorem exponentOf?_eq_some_iff {text : List Char} {power : Int} :
    exponentOf? text = some power ↔ IsExponent text power := by
  constructor
  · intro read
    cases text with
    | nil =>
        cases read
        exact .absent
    | cons mark text =>
        rcases exists_sign text with ⟨sign, text_eq, signed⟩
        simp only [exponentOf?] at read
        split at read
        · rename_i marks
          split at read
          · rename_i digits
            cases read
            have count : IsDigits (splitSign text).2 :=
              ⟨digits.1, List.all_eq_true.mp digits.2⟩
            have marked := IsExponent.marked marks signed count
            rw [← text_eq] at marked
            exact marked
          · cases read
        · cases read
  · intro scaled
    cases scaled with
    | absent => rfl
    | marked marks signed count =>
        have unsigned := count.isUnsigned []
        rw [List.append_nil] at unsigned
        have digits := And.intro count.1 (List.all_eq_true.mpr count.2)
        simp only [exponentOf?, splitSign_append signed unsigned, if_pos marks, if_pos digits]

theorem IsExponent.endsDigits {text : List Char} {power : Int} (scaled : IsExponent text power) :
    EndsDigits text := by
  intro char head
  cases scaled with
  | absent => cases head
  | marked marks =>
      cases head
      rcases marks with rfl | rfl <;> rfl

/-- No point begins an exponent. -/
theorem IsExponent.ne_point {text rest : List Char} {power : Int}
    (scaled : IsExponent text power) : text ≠ '.' :: rest := by
  rintro rfl
  cases scaled with
  | marked marks => rcases marks with mark_eq | mark_eq <;> cases mark_eq

/-! ## Mantissas -/

/-- What is read behind the digits with which a mantissa begins: more digits after a point. -/
def splitPlaces (afterWhole : List Char) : List Char × List Char :=
  match afterWhole with
  | '.' :: afterPoint => splitDigits afterPoint
  | _ => ([], afterWhole)

theorem splitPlaces_of_ne {text : List Char} (no_point : ∀ rest, text ≠ '.' :: rest) :
    splitPlaces text = ([], text) := by
  unfold splitPlaces
  split
  · exact absurd rfl (no_point _)
  · rfl

/-- A mantissa has digits on one side of its point. -/
theorem IsMantissa.nonempty {mantissa whole places : List Char}
    (digits : IsMantissa mantissa whole places) : ¬(whole = [] ∧ places = []) := by
  rintro ⟨no_whole, no_places⟩
  cases digits with
  | whole isDigits | pointed isDigits | placed isDigits => exact isDigits.1 no_whole
  | fraction behind => exact behind.1 no_places

/-- The digits of a mantissa are found in what begins with it. -/
theorem IsMantissa.splits {mantissa whole places text : List Char}
    (digits : IsMantissa mantissa whole places) (ends : EndsDigits text)
    (no_point : ∀ rest, text ≠ '.' :: rest) :
    ∃ afterWhole, splitDigits (mantissa ++ text) = (whole, afterWhole) ∧
      splitPlaces afterWhole = (places, text) := by
  have ends_point (rest : List Char) : EndsDigits ('.' :: rest) := by
    rintro _ ⟨⟩
    rfl
  cases digits with
  | whole isDigits =>
      exact ⟨text, splitDigits_append isDigits.2 ends, splitPlaces_of_ne no_point⟩
  | pointed isDigits =>
      refine ⟨'.' :: text, ?_, splitDigits_of_ends ends⟩
      rw [List.append_assoc]
      exact splitDigits_append isDigits.2 (ends_point text)
  | placed isDigits behind =>
      refine ⟨'.' :: (places ++ text), ?_, splitDigits_append behind.2 ends⟩
      rw [List.append_assoc]
      exact splitDigits_append isDigits.2 (ends_point _)
  | fraction behind =>
      refine ⟨'.' :: (places ++ text), ?_, splitDigits_append behind.2 ends⟩
      exact splitDigits_of_ends (ends_point _)

/-- Digits that are found are those of a mantissa, if there are any. -/
theorem exists_mantissa {text afterWhole : List Char}
    (afterWhole_eq : (splitDigits text).2 = afterWhole)
    (nonempty : ¬((splitDigits text).1 = [] ∧ (splitPlaces afterWhole).1 = [])) :
    ∃ mantissa, text = mantissa ++ (splitPlaces afterWhole).2 ∧
      IsMantissa mantissa (splitDigits text).1 (splitPlaces afterWhole).1 := by
  have text_eq := append_splitDigits text
  rw [afterWhole_eq] at text_eq
  by_cases pointed : ∃ rest, afterWhole = '.' :: rest
  · rcases pointed with ⟨rest, rfl⟩
    have rest_eq := append_splitDigits rest
    have places_eq : splitPlaces ('.' :: rest) = splitDigits rest := rfl
    rw [places_eq] at nonempty ⊢
    by_cases no_whole : (splitDigits text).1 = []
    · have behind := isDigits_fst_splitDigits fun no_places => nonempty ⟨no_whole, no_places⟩
      refine ⟨'.' :: (splitDigits rest).1, ?_, ?_⟩
      · rw [List.cons_append, rest_eq, ← text_eq, no_whole, List.nil_append]
      · rw [no_whole]
        exact .fraction behind
    · have isDigits := isDigits_fst_splitDigits no_whole
      by_cases no_places : (splitDigits rest).1 = []
      · refine ⟨(splitDigits text).1 ++ ['.'], ?_, ?_⟩
        · rw [no_places, List.nil_append] at rest_eq
          rw [rest_eq, List.append_assoc]
          exact text_eq.symm
        · rw [no_places]
          exact .pointed isDigits
      · refine ⟨(splitDigits text).1 ++ '.' :: (splitDigits rest).1, ?_, ?_⟩
        · rw [List.append_assoc, List.cons_append, rest_eq]
          exact text_eq.symm
        · exact .placed isDigits (isDigits_fst_splitDigits no_places)
  · have places_eq := splitPlaces_of_ne fun rest afterWhole_eq => pointed ⟨rest, afterWhole_eq⟩
    rw [places_eq] at nonempty ⊢
    have isDigits := isDigits_fst_splitDigits fun no_whole => nonempty ⟨no_whole, rfl⟩
    exact ⟨(splitDigits text).1, text_eq.symm, .whole isDigits⟩

/-! ## Reading -/

theorem IsMantissa.isUnsigned {mantissa whole places : List Char}
    (digits : IsMantissa mantissa whole places) (rest : List Char) :
    IsUnsigned (mantissa ++ rest) := by
  cases digits with
  | whole isDigits => exact isDigits.isUnsigned rest
  | pointed isDigits | placed isDigits =>
      rw [List.append_assoc]
      exact isDigits.isUnsigned _
  | fraction behind =>
      intro char head
      cases head
      decide

theorem ofNumeral?_eq (text : List Char) :
    ofNumeral? text =
      let unsigned := (splitSign text).2
      let whole := (splitDigits unsigned).1
      let places := splitPlaces (splitDigits unsigned).2
      if whole = [] ∧ places.1 = [] then none
      else (exponentOf? places.2).map fun power =>
        ⟨(splitSign text).1, valueOfDigits (whole ++ places.1), power - places.1.length⟩ :=
  rfl

/-- A text is read as a decimal exactly if it denotes it. -/
theorem ofNumeral?_eq_some_iff {text : List Char} {decimal : Decimal} :
    ofNumeral? text = some decimal ↔ Denotes text decimal := by
  rw [ofNumeral?_eq]
  constructor
  · intro read
    rcases exists_sign text with ⟨sign, text_eq, signed⟩
    dsimp only at read
    split at read
    · cases read
    · rename_i nonempty
      rcases Option.map_eq_some_iff.mp read with ⟨power, exponent_eq, rfl⟩
      rcases exists_mantissa rfl nonempty with ⟨mantissa, unsigned_eq, digits⟩
      have denotes := Denotes.numeral signed digits (exponentOf?_eq_some_iff.mp exponent_eq)
      rw [← unsigned_eq, ← text_eq] at denotes
      exact denotes
  · rintro ⟨signed, digits, scaled⟩
    rcases digits.splits scaled.endsDigits fun _ => scaled.ne_point with
      ⟨afterWhole, digits_eq, places_eq⟩
    simp only [splitSign_append signed (digits.isUnsigned _), digits_eq, places_eq,
      exponentOf?_eq_some_iff.mpr scaled, if_neg digits.nonempty, Option.map_some]

end Decimal

end ScriptMachine
