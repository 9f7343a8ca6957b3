import ScriptMachine.Binary64.Arithmetic
import ScriptMachine.Decimal.Numeral
import ScriptMachine.Decimal.Shortest
import ScriptMachine.Text.Blank
import ScriptMachine.Value.Basic

/-!
# Conversions between values

Integers, numbers and texts convert to each other; all other kinds refuse.  A text is a
number if it is a decimal numeral between white space, and converts to zero if it is
not.  A refusal names the conversion that was asked for and the kind of the value.
-/

namespace ScriptMachine

/-- What a value can be asked to convert to. -/
inductive Conversion where
  | bool
  | integer
  | long
  | float
  | double
  | text
  | size
  | list
  | object
  /-- The conversion to something that can be called. -/
  | function
  deriving DecidableEq

/-- The name of a conversion in messages. -/
def Conversion.name : Conversion → String
  | .bool => "bool"
  | .integer => "integer"
  | .long => "long"
  | .float => "float"
  | .double => "double"
  | .text => "text"
  | .size => "size"
  | .list => "list"
  | .object => "object"
  | .function => "function"

/-- The refusal of a conversion by a value of a kind. -/
structure Mismatch where
  conversion : Conversion
  actual : Kind
  deriving DecidableEq

/-- Whether a character occurs in numerals. -/
def isNumeralChar (char : Char) : Bool :=
  char.isDigit || char = '+' || char = '-' || char = '.' || char = 'e' || char = 'E'

/-- The number that a text is between white space.  The words for numbers without digits are
kept out by their characters. -/
def numberOfText? (text : String) : Option Binary64 :=
  let core := trimBlank text.toList
  if core.isEmpty || !core.all isNumeralChar then none else Binary64.ofText? core

/-- The number that a text converts to: zero if it is not a numeral. -/
def numberOfText (text : String) : Binary64 :=
  (numberOfText? text).getD .zero

/-- Whether a text is one of the two affirmative words, in any case. -/
def isAffirmative (text : String) : Bool :=
  let word := (trimBlank text.toList).map Char.toLower
  word = "true".toList || word = "yes".toList

/-- The words for numbers without digits in values. -/
def valueNumberWords : NumberWords := ⟨"Infinity", "NaN"⟩

namespace Value

/-- Whether a value is a number or a text that is one. -/
def isNumber : Value → Bool
  | .integer _ => true
  | .number _ => true
  | .text value => (numberOfText? value).isSome
  | _ => false

/-- The refusal of a conversion. -/
def mismatch (value : Value) (conversion : Conversion) : Mismatch :=
  ⟨conversion, value.kind⟩

/-- Conversion to a truth value: whether it is greater than zero, or an affirmative
word. -/
def toBool : Value → Except Mismatch Bool
  | .integer value => .ok (0 < value)
  | .number value => .ok value.positive
  | .text value => .ok (isAffirmative value || (numberOfText value).positive)
  | value => .error (value.mismatch .bool)

/-- Conversion to a 32-bit integer. -/
def toInteger : Value → Except Mismatch Int32
  | .integer value => .ok value
  | .number value => .ok value.toInt32
  | .text value => .ok (numberOfText value).toInt32
  | value => .error (value.mismatch .integer)

/-- Conversion to a 64-bit integer. -/
def toLong : Value → Except Mismatch Int64
  | .integer value => .ok value.toInt64
  | .number value => .ok value.toInt64
  | .text value => .ok (numberOfText value).toInt64
  | value => .error (value.mismatch .long)

/-- Conversion to a number of double precision. -/
def toDouble : Value → Except Mismatch Binary64
  | .integer value => .ok (.ofInt value.toInt)
  | .number value => .ok value
  | .text value => .ok (numberOfText value)
  | value => .error (value.mismatch .double)

/-- Conversion to a number of single precision, as the double it equals. -/
def toFloat : Value → Except Mismatch Binary64
  | .integer value => .ok (Binary64.ofInt value.toInt).toSingle
  | .number value => .ok value.toSingle
  | .text value => .ok (numberOfText value).toSingle
  | value => .error (value.mismatch .float)

/-- Conversion to text. -/
def toText : Value → Except Mismatch String
  | .integer value => .ok (toString value.toInt)
  | .number value => .ok (value.text valueNumberWords)
  | .text value => .ok value
  | value => .error (value.mismatch .text)

/-- The list that a value is. -/
def asList : Value → Except Mismatch ListHandle
  | .list handle => .ok handle
  | value => .error (value.mismatch .list)

/-- The object that a value is. -/
def asObject : Value → Except Mismatch ObjectCells
  | .object cells => .ok cells
  | value => .error (value.mismatch .object)

/-- Equality of values wherever they are stored: texts by content and numbers by
amount.  Everything else is equal to nothing, itself included. -/
def equal : Value → Value → Bool
  | .text left, .text right => left == right
  | .integer left, .integer right => (Binary64.ofInt left.toInt).equal (.ofInt right.toInt)
  | .integer left, .number right => (Binary64.ofInt left.toInt).equal right
  | .number left, .integer right => left.equal (.ofInt right.toInt)
  | .number left, .number right => left.equal right
  | _, _ => false

end Value

end ScriptMachine
