import ScriptMachine.Memory.Basic
import ScriptMachine.Value.Conversion

/-!
# Lists

A list is a sequence of slots, each an address or null.  Every holder of its handle sees
the same slots.  The elements are what the slots lead to, read in order.
-/

namespace ScriptMachine

namespace Memory

/-- The slots of a list. -/
def slots (memory : Memory) (handle : ListHandle) : Array (Option Address) :=
  (memory.lists.get? handle.index).getD #[]

/-- Gives a list other slots. -/
def withSlots (memory : Memory) (handle : ListHandle)
    (slots : Array (Option Address)) : Memory :=
  { memory with lists := memory.lists.set handle.index slots }

/-- A new list with the slots that are given. -/
def newList (memory : Memory) (slots : Array (Option Address)) : ListHandle × Memory :=
  let handle : ListHandle := ⟨memory.lists.size⟩
  (handle, memory.withSlots handle slots)

/-- The number of slots of a list. -/
def listLength (memory : Memory) (handle : ListHandle) : Nat :=
  (memory.slots handle).size

/-- The slot at an index; there are only null slots past the end. -/
def slot (memory : Memory) (handle : ListHandle) (index : Nat) : Option Address :=
  (memory.slots handle)[index]?.join

/-- Adds a slot at the end of a list. -/
def pushSlot (memory : Memory) (handle : ListHandle) (address : Option Address) : Memory :=
  memory.withSlots handle ((memory.slots handle).push address)

/-- The slots after storing at an index.  An address past the end fills the gap with null
slots; null past the end changes nothing. -/
def storeSlot (slots : Array (Option Address)) (index : Nat)
    (address : Option Address) : Array (Option Address) :=
  let extended :=
    if address.isSome && slots.size ≤ index then
      slots ++ Array.replicate (index + 1 - slots.size) none
    else slots
  extended.setIfInBounds index address

/-- Stores an address at an index of a list. -/
def setSlot (memory : Memory) (handle : ListHandle) (index : Nat)
    (address : Option Address) : Memory :=
  memory.withSlots handle (storeSlot (memory.slots handle) index address)

/-- The element at an index. -/
def element (memory : Memory) (handle : ListHandle) (index : Nat) : Value × Memory :=
  memory.readSlot (memory.slot handle index)

/-- What slots lead to, read in order. -/
def readSlots (memory : Memory) : List (Option Address) → List Value × Memory
  | [] => ([], memory)
  | slot :: rest =>
      let (value, memory) := memory.readSlot slot
      let (values, memory) := memory.readSlots rest
      (value :: values, memory)

/-- The elements of a list. -/
def elements (memory : Memory) (handle : ListHandle) : List Value × Memory :=
  memory.readSlots (memory.slots handle).toList

/-- Whether the text form of a value is the text; some values have none. -/
def hasText (text : String) (value : Value) : Bool :=
  match value.toText with
  | .ok form => form == text
  | .error _ => false

/-- The index of the first element with a text form. -/
def indexOf (memory : Memory) (handle : ListHandle) (text : String) :
    Option Nat × Memory :=
  let (values, memory) := memory.elements handle
  (values.findIdx? (hasText text), memory)

/-- The text forms of what slots lead to, put together.  Null slots are left out, and
reading ends at the first value without text form. -/
def joinSlots (memory : Memory) : List (Option Address) → Except Mismatch String × Memory
  | [] => (.ok "", memory)
  | none :: rest => memory.joinSlots rest
  | some address :: rest =>
      let (value, memory) := memory.read address
      match value.toText with
      | .error mismatch => (.error mismatch, memory)
      | .ok text =>
          let (joined, memory) := memory.joinSlots rest
          (joined.map (text ++ ·), memory)

/-- The text forms of a list's elements, put together. -/
def join (memory : Memory) (handle : ListHandle) : Except Mismatch String × Memory :=
  memory.joinSlots (memory.slots handle).toList

/-- Puts values into new cells, in order. -/
def allocateAll (memory : Memory) : List Value → List Address × Memory
  | [] => ([], memory)
  | value :: rest =>
      let (address, memory) := memory.allocate value
      let (addresses, memory) := memory.allocateAll rest
      (address :: addresses, memory)

/-- A new list with values as elements, in new cells. -/
def newListOf (memory : Memory) (values : List Value) : ListHandle × Memory :=
  let (addresses, memory) := memory.allocateAll values
  memory.newList (addresses.map some).toArray

/-- A new cell that holds a new empty list. -/
def createList (memory : Memory) : Address × Memory :=
  let (handle, memory) := memory.newList #[]
  memory.allocate (.list handle)

/-- The size of a value: the bytes of a number, the characters of a text, the slots of a
list. -/
def sizeOf (memory : Memory) : Value → Except Mismatch Nat
  | .none => .ok 0
  | .integer _ => .ok 4
  | .number _ => .ok 8
  | .text value => .ok value.length
  | .list handle => .ok (memory.listLength handle)
  | value => .error (value.mismatch .size)

end Memory

end ScriptMachine
