import ScriptMachine.Binary64.Basic

/-!
# Decimal numbers

A `Decimal` is a sign, a natural number of digits and a power of ten: what is
written when a number is written in decimal notation.  `Decimal.toBinary64` rounds
it to the nearest double precision number, and `Decimal.positional` writes it out
without an exponent.
-/

namespace ScriptMachine

/-- The number `digits * 10 ^ exponent`, or its negative. -/
structure Decimal where
  negative : Bool
  digits : Nat
  exponent : Int
  deriving DecidableEq, Repr

namespace Decimal

/-- A power of ten. -/
def powerOfTen (exponent : Nat) : Nat := Nat.pow 10 exponent

/-- The nearest double precision number.  Exponents that take every number of so
many digits out of range are answered without computing the power of ten. -/
def toBinary64 (decimal : Decimal) : Binary64 :=
  if decimal.digits = 0 then .signedZero decimal.negative
  else if 310 < decimal.exponent then .infinite decimal.negative
  else if decimal.exponent < -(decimal.digits.log2 + 400 : Int) then
    .signedZero decimal.negative
  else if 0 ≤ decimal.exponent then
    .ofRatio decimal.negative
      (decimal.digits * powerOfTen decimal.exponent.toNat * unitsPerOne) 1
  else
    .ofRatio decimal.negative (decimal.digits * unitsPerOne)
      (powerOfTen (-decimal.exponent).toNat)

/-- Drops final zeros of `digits` that stand behind a decimal point with `places`
digits after it. -/
def dropFinalZeros (digits : Nat) : (places : Nat) → Nat × Nat
  | 0 => (digits, 0)
  | places + 1 =>
      if digits % 10 = 0 then dropFinalZeros (digits / 10) places
      else (digits, places + 1)

/-- The digits of a number with `places` digits after the point, which is left out
when there are none. -/
def pointed (digits places : Nat) : List Char :=
  let (digits, places) := dropFinalZeros digits places
  if places = 0 then Nat.toDigits 10 digits
  else
    let behind := Nat.toDigits 10 (digits % powerOfTen places)
    Nat.toDigits 10 (digits / powerOfTen places) ++
      '.' :: (List.replicate (places - behind.length) '0' ++ behind)

/-- The decimal written without an exponent. -/
def positional (decimal : Decimal) : String :=
  let digits :=
    if 0 ≤ decimal.exponent then
      Nat.toDigits 10 (decimal.digits * powerOfTen decimal.exponent.toNat)
    else
      pointed decimal.digits (-decimal.exponent).toNat
  String.ofList (if decimal.negative then '-' :: digits else digits)

end Decimal

end ScriptMachine
