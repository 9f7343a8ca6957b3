import ScriptMachine.Decimal.Numeral

/-!
# Numerals of the data notation

The lexical form of a number is kept as it was written; this file says what it stands
for.  An integer is written in decimal, or in another radix after `0x`, `0o` or `0b`, and
underscores may separate its digits.  In decimal it must fit 64 bits: unsigned without a
sign, and signed with one.  A form with a point or an exponent is a real number, whose
whole part must be such an integer.  The words `inf` and `NaN` are real numbers as well.

The digits in another radix describe a machine word, into which they are shifted from the
right.  What leaves the word on the left is lost the first time, and refused the second.
After the first time every digit below four times the number of its bits is accepted.  With
a sign the word is read in two's complement, and a minus negates it there.
-/

namespace ScriptMachine

/-- What a numeral stands for. -/
inductive Numeral where
  | integer (value : Int)
  | real (value : Binary64)
  deriving DecidableEq

namespace Numeral

/-- The value of a digit in the radices up to sixteen. -/
def digitValue? (char : Char) : Option Nat :=
  if '0' ≤ char ∧ char ≤ '9' then some (char.toNat - '0'.toNat)
  else if 'a' ≤ char ∧ char ≤ 'f' then some (char.toNat - 'a'.toNat + 10)
  else if 'A' ≤ char ∧ char ≤ 'F' then some (char.toNat - 'A'.toNat + 10)
  else none

/-- The number of bits of a digit in the radix that the character after a zero announces. -/
def digitBits? (mark : Char) : Option Nat :=
  if mark = 'x' ∨ mark = 'X' then some 4
  else if mark = 'o' ∨ mark = 'O' then some 3
  else if mark = 'b' ∨ mark = 'B' then some 1
  else none

/-- The number of digits that can be shifted in: those of the radix, and more of them after
something has been lost. -/
def digitCount (bits : Nat) (lossy : Bool) : Nat :=
  if lossy then 4 * bits else 1 <<< bits

/-- What a machine word is after digits of some bits have been shifted in from the right.
It is `lossy` if something has been lost on the left before. -/
def shiftIn? (bits : Nat) (lossy : Bool) (word : Nat) : List Char → Option Nat
  | [] => some word
  | '_' :: rest => shiftIn? bits lossy word rest
  | char :: rest =>
      match digitValue? char with
      | none => none
      | some digit =>
          let next := (word <<< bits) + digit
          if digitCount bits lossy ≤ digit then none
          else if next < UInt64.size then shiftIn? bits lossy next rest
          else if lossy then none
          else shiftIn? bits true (next % UInt64.size) rest

/-- The machine word that digits of some bits describe; there must be at least one. -/
def wordOfDigits? (bits : Nat) (digits : List Char) : Option UInt64 :=
  if digits.all (· = '_') then none else (shiftIn? bits false 0 digits).map UInt64.ofNat

/-- The integer that a machine word is with the sign before it. -/
def integerOfWord (signed negative : Bool) (word : UInt64) : Int :=
  if signed then (if negative then -word.toInt64 else word.toInt64).toInt
  else word.toNat

/-- A sign and a magnitude as an integer, if it fits 64 bits. -/
def integer? (signed negative : Bool) (magnitude : Nat) : Option Int :=
  let value : Int := if negative then -(magnitude : Int) else magnitude
  let fits :=
    if signed then Int64.minValue.toInt ≤ value ∧ value ≤ Int64.maxValue.toInt
    else magnitude < UInt64.size
  if fits then some value else none

/-- Whether a character can stand in the whole part of a decimal form. -/
def isWholePart (char : Char) : Bool := char.isDigit || char = '_'

/-- What an unsigned form stands for with the sign that was before it. -/
def ofUnsigned? (signed negative : Bool) (form : List Char) : Option Numeral :=
  if form = "inf".toList then some (.real (.infinite negative))
  else if form = "NaN".toList then some (.real .nan)
  else
    let inRadix :=
      match form with
      | '0' :: mark :: digits => (digitBits? mark).map fun bits => (bits, digits)
      | _ => none
    match inRadix with
    | some (bits, digits) =>
        (wordOfDigits? bits digits).map fun word =>
          .integer (integerOfWord signed negative word)
    | none =>
        let whole := (form.takeWhile isWholePart).filter Char.isDigit
        let rest := form.dropWhile isWholePart
        if whole = [] then none
        else
          match integer? signed negative (Decimal.valueOfDigits whole) with
          | none => none
          | some value =>
              if rest = [] then some (.integer value)
              else
                (Decimal.ofNumeral? (whole ++ rest)).map fun decimal =>
                  .real (Decimal.toBinary64 { decimal with negative := negative })

/-- What a form stands for, if it is a numeral. -/
def ofForm? (form : List Char) : Option Numeral :=
  let (negative, unsigned) := Decimal.splitSign form
  ofUnsigned? (unsigned ≠ form) negative unsigned

/-- The double precision number nearest to a numeral. -/
def toBinary64 : Numeral → Binary64
  | .integer value => .ofInt value
  | .real value => value

end Numeral

end ScriptMachine
