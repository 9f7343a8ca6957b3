import ScriptMachine.Binary64.Basic
import ScriptMachine.Instruction.Basic

/-!
# Values

What a cell can hold.  Values are small: a list is a handle to slots that are kept
beside the cells, and an object names the two cells that hold its lists, so that copies
of a list or object share their contents.

Functions, native functions and foreign payloads are capabilities that come from the
host.  Programs can pass them on but have no literals for them.
-/

namespace ScriptMachine

/-- The address of a cell.  Zero is the null address and is not an `Address`; what can be
null is an `Option Address`. -/
structure Address where
  index : Nat
  positive : 0 < index
  deriving DecidableEq

namespace Address

/-- The address that a machine integer stands for: null unless it is positive. -/
def ofRaw? (raw : Int64) : Option Address :=
  if positive : 0 < raw.toInt.toNat then some ⟨raw.toInt.toNat, positive⟩ else none

/-- The machine integer of an address, or the greatest one if it is beyond all. -/
def toRaw (address : Address) : Int64 :=
  Int64.ofInt (min (address.index : Int) Int64.maxValue.toInt)

/-- The address as programs see it. -/
def toNumber (address : Address) : Binary64 := .ofInt address.index

end Address

/-- Names the slots of one list. -/
structure ListHandle where
  index : Nat
  deriving DecidableEq

/-- Names the cells that hold the list of keys and the list of values of an object. -/
structure ObjectCells where
  keys : Address
  values : Address
  deriving DecidableEq

/-- A function of a loaded library: the library's index and the function's label. -/
structure FunctionReference where
  library : Nat
  label : UInt64
  deriving DecidableEq

/-- Names a function of the host. -/
structure NativeId where
  index : Nat
  deriving DecidableEq

/-- Names what a host has attached to a foreign value.  The host alone knows what this is and of
which type; copies of the value name the same. -/
structure PayloadId where
  index : Nat
  deriving DecidableEq

/-- The content of a cell. -/
inductive Value where
  | none
  | integer (value : Int32)
  | number (value : Binary64)
  | text (value : String)
  | list (handle : ListHandle)
  | object (cells : ObjectCells)
  | function (reference : FunctionReference)
  | nativeFunction (id : NativeId)
  /-- A value that belongs to the host, with or without a payload. -/
  | foreign (payload : Option PayloadId)
  deriving DecidableEq, Inhabited

/-- The kinds of values. -/
inductive Kind where
  | none
  | integer
  | number
  | text
  | list
  | object
  | function
  | nativeFunction
  | foreign
  deriving DecidableEq

/-- The name of a kind in messages. -/
def Kind.name : Kind → String
  | .none => "none"
  | .integer => "integer"
  | .number => "number"
  | .text => "text"
  | .list => "list"
  | .object => "object"
  | .function => "function"
  | .nativeFunction => "native function"
  | .foreign => "opaque"

namespace Value

/-- The kind of a value. -/
def kind : Value → Kind
  | .none => .none
  | .integer _ => .integer
  | .number _ => .number
  | .text _ => .text
  | .list _ => .list
  | .object _ => .object
  | .function _ => .function
  | .nativeFunction _ => .nativeFunction
  | .foreign _ => .foreign

/-- The truth values of programs are the numbers one and zero. -/
def ofBool (value : Bool) : Value := .number (.ofBool value)

/-- The value of an address that may be null, which programs see as zero. -/
def ofAddress : Option Address → Value
  | some address => .number address.toNumber
  | .none => .number .zero

/-- Whether a value counts as empty: only `none`, the empty text and foreign values
without payload do. -/
def isEmpty : Value → Bool
  | .none => true
  | .text value => value.isEmpty
  | .foreign payload => payload.isNone
  | _ => false

/-- The value of a literal. -/
def ofLiteral : Literal → Value
  | .none => .none
  | .number value => .number value
  | .text value => .text value

end Value

end ScriptMachine
