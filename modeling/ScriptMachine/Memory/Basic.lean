import ScriptMachine.Table
import ScriptMachine.Value.Basic

/-!
# Memory

A store of cells that only grows, and the slots of all lists beside it.  Reading or
writing a cell past the end extends the store with empty cells first, so reading returns
a new store as well.  What a cell holds is `Memory.lookup`, which extending does not
change.

The cell at index zero belongs to the null address.  It is always there and always
empty.  A handle that was never given out stands for a list without slots.
-/

namespace ScriptMachine

/-- Cells by index, and the slots of lists by handle. -/
structure Memory where
  cells : Array Value
  lists : Table (Array (Option Address))
  null_cell : cells[0]? = some .none

namespace Memory

/-- The memory with the null cell only. -/
def empty : Memory := ⟨#[.none], .empty, rfl⟩

instance : Inhabited Memory := ⟨empty⟩

/-- The number of cells, with the null cell. -/
def size (memory : Memory) : Nat := memory.cells.size

theorem size_pos (memory : Memory) : 0 < memory.size := by
  have null := memory.null_cell
  rcases Nat.eq_zero_or_pos memory.size with none | some
  · rw [size] at none
    simp [none] at null
  · exact some

/-- Whether there are no cells but the null cell. -/
def isEmpty (memory : Memory) : Bool := memory.size ≤ 1

/-- The values of all cells but the null cell, in order. -/
def contents (memory : Memory) : List Value := memory.cells.toList.drop 1

/-- What the cell at an address holds; cells past the end are empty. -/
def lookup (memory : Memory) (address : Address) : Value :=
  memory.cells[address.index]?.getD .none

/-- Adds empty cells until the address is inside. -/
def extend (memory : Memory) (address : Address) : Memory :=
  if memory.size ≤ address.index then
    { memory with
      cells := memory.cells ++ Array.replicate (address.index + 1 - memory.size) .none
      null_cell := by
        rw [Array.getElem?_append_left memory.size_pos]
        exact memory.null_cell }
  else memory

/-- Reads a cell. -/
def read (memory : Memory) (address : Address) : Value × Memory :=
  (memory.lookup address, memory.extend address)

/-- Writes a cell. -/
def write (memory : Memory) (address : Address) (value : Value) : Memory :=
  let extended := memory.extend address
  { extended with
    cells := extended.cells.setIfInBounds address.index value
    null_cell := by
      rw [Array.getElem?_setIfInBounds_ne (Nat.pos_iff_ne_zero.mp address.positive)]
      exact extended.null_cell }

/-- Puts a value into a new cell, whose index is the number of cells before. -/
def allocate (memory : Memory) (value : Value) : Address × Memory :=
  (⟨memory.size, memory.size_pos⟩,
    { memory with
      cells := memory.cells.push value
      null_cell := by
        rw [Array.getElem?_push_lt memory.size_pos,
          ← Array.getElem?_eq_getElem memory.size_pos]
        exact memory.null_cell })

/-- What an address that may be null leads to; null leads to an empty value. -/
def lookupSlot (memory : Memory) : Option Address → Value
  | some address => memory.lookup address
  | none => .none

/-- Adds empty cells until an address that may be null is inside. -/
def extendSlot (memory : Memory) : Option Address → Memory
  | some address => memory.extend address
  | none => memory

/-- Reads through an address that may be null. -/
def readSlot (memory : Memory) (slot : Option Address) : Value × Memory :=
  (memory.lookupSlot slot, memory.extendSlot slot)

/-- Writes through an address that may be null, which drops the value. -/
def writeSlot (memory : Memory) (slot : Option Address) (value : Value) : Memory :=
  match slot with
  | some address => memory.write address value
  | none => memory

end Memory

end ScriptMachine
