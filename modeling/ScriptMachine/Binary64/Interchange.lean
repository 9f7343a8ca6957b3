import ScriptMachine.Binary64.Basic

/-!
# The interchange word of a number

The 64 bits of a number are its sign, eleven bits of exponent and the 52 bits that
follow the leading bit of its significand.  Read without the sign they count the
magnitudes in order, with infinity next after the last finite one.
-/

namespace ScriptMachine

namespace Binary64

/-- The rank of a magnitude among all magnitudes of the format, from zero up. -/
def rankOfUnits (units : Nat) : Nat :=
  let shift := units.log2 - 52
  shift <<< 52 + units >>> shift

/-- The magnitude of a rank below that of infinity. -/
def unitsOfRank (rank : Nat) : Nat :=
  if rank < 1 <<< 52 then rank
  else (1 <<< 52 + rank % 1 <<< 52) <<< (rank >>> 52 - 1)

/-- The rank of infinity. -/
def infinityRank : Nat := 2047 <<< 52

/-- The word of a number; for `nan` the quiet one without sign and payload. -/
def toBits : Binary64 → UInt64
  | .nan => UInt64.ofNat (infinityRank + 1 <<< 51)
  | .infinite negative => UInt64.ofNat ((if negative then 1 <<< 63 else 0) + infinityRank)
  | .finite negative units _ =>
      UInt64.ofNat ((if negative then 1 <<< 63 else 0) + rankOfUnits units)

/-- The number of a word; all words past the infinities are `nan`. -/
def ofBits (word : UInt64) : Binary64 :=
  let negative := 1 <<< 63 ≤ word.toNat
  let rank := word.toNat % 1 <<< 63
  if rank < infinityRank then ofRatio negative (unitsOfRank rank) 1
  else if rank = infinityRank then .infinite negative
  else .nan

end Binary64

end ScriptMachine
