/-!
# Sets of characters given by ranges

The character classes of Unicode are written as tables of inclusive ranges of code
points.  This file holds the membership test that all of them share.
-/

namespace ScriptMachine

/-- A set of characters as ranges of code points, both ends included. -/
abbrev CharRanges := List (Nat × Nat)

/-- Whether a character lies in one of the ranges. -/
def CharRanges.contains (ranges : CharRanges) (char : Char) : Bool :=
  ranges.any fun (first, last) => first ≤ char.toNat && char.toNat ≤ last

end ScriptMachine
