import ScriptMachine.Decimal.Basic

/-!
# Decimal numerals

The numerals are an optional sign, digits with at most one point among or beside
them, and an optional exponent: `12`, `-1.5`, `.5`, `5.`, `1e-3`.  There is at least
one digit before the exponent and at least one in it.  `Decimal.ofNumeral?` reads a
whole text as a numeral or refuses it; words such as `inf` are not numerals, but
`Binary64.ofText?` reads them as well.
-/

namespace ScriptMachine

namespace Decimal

/-- Takes a sign off a text and tells whether it was a minus. -/
def splitSign : List Char → Bool × List Char
  | '-' :: rest => (true, rest)
  | '+' :: rest => (false, rest)
  | text => (false, text)

/-- The digits at the front of a text, and what follows them. -/
def splitDigits (text : List Char) : List Char × List Char :=
  (text.takeWhile Char.isDigit, text.dropWhile Char.isDigit)

/-- The value of a text of digits. -/
def valueOfDigits (digits : List Char) : Nat :=
  Nat.ofDigitChars 10 digits 0

/-- Reads what stands behind the digits of a numeral: nothing, or an exponent. -/
def exponentOf? : List Char → Option Int
  | [] => some 0
  | mark :: text =>
      if mark = 'e' ∨ mark = 'E' then
        let (negative, digits) := splitSign text
        if digits ≠ [] ∧ digits.all Char.isDigit then
          let value : Int := valueOfDigits digits
          some (if negative then -value else value)
        else none
      else none

/-- Reads a text as a numeral. -/
def ofNumeral? (text : List Char) : Option Decimal :=
  let (negative, unsigned) := splitSign text
  let (whole, afterWhole) := splitDigits unsigned
  let (places, afterPlaces) :=
    match afterWhole with
    | '.' :: afterPoint => splitDigits afterPoint
    | _ => ([], afterWhole)
  if whole = [] ∧ places = [] then none
  else
    (exponentOf? afterPlaces).map fun exponent =>
      ⟨negative, valueOfDigits (whole ++ places), exponent - places.length⟩

end Decimal

/-- Reads a whole text as a number: a numeral, or a word for a number without digits, in any
case and after an optional sign. -/
def Binary64.ofText? (text : List Char) : Option Binary64 :=
  let (negative, unsigned) := Decimal.splitSign text
  let word := unsigned.map Char.toLower
  if word = "inf".toList ∨ word = "infinity".toList then some (.infinite negative)
  else if word = "nan".toList then some .nan
  else (Decimal.ofNumeral? text).map Decimal.toBinary64

end ScriptMachine
