import ScriptMachine.Text.Ranges

/-!
# Blank characters

The characters with the Unicode property `White_Space`, and texts without them at
their ends.
-/

namespace ScriptMachine

/-- The ranges of `White_Space`. -/
def blankRanges : CharRanges := [
  (0x9, 0xD), (0x20, 0x20), (0x85, 0x85), (0xA0, 0xA0), (0x1680, 0x1680), (0x2000, 0x200A),
  (0x2028, 0x2029), (0x202F, 0x202F), (0x205F, 0x205F), (0x3000, 0x3000)]

/-- Whether a character is white space. -/
def isBlank (char : Char) : Bool := blankRanges.contains char

/-- A text without the white space at its ends. -/
def trimBlank (text : List Char) : List Char :=
  ((text.dropWhile isBlank).reverse.dropWhile isBlank).reverse

end ScriptMachine
