import ScriptMachine.Memory.Lists
import ScriptMachine.Task

/-!
# Objects

An object is a sequence of entries in two lists: the text forms of the elements of one
are the keys, and the elements of the other at the same indices the values.  A key that
occurs more than once stands for its first entry.
-/

namespace ScriptMachine

namespace Memory

/-- The list in a cell. -/
def listAt (address : Address) : Task Memory ListHandle := do
  let value ← Task.ofUpdate (·.read address)
  Task.ofConversion value.asList

/-- A new cell that holds a new empty object, after two new cells for its lists. -/
def createObject (memory : Memory) : Address × Memory :=
  let (keys, memory) := memory.createList
  let (values, memory) := memory.createList
  memory.allocate (.object ⟨keys, values⟩)

end Memory

namespace ObjectCells

/-- The number of entries. -/
def length (object : ObjectCells) : Task Memory Nat := do
  let keys ← Memory.listAt object.keys
  return (← get).listLength keys

/-- The index of the first entry with a key, and the list of values. -/
def find (object : ObjectCells) (key : String) : Task Memory (Nat × ListHandle) := do
  let keys ← Memory.listAt object.keys
  let values ← Memory.listAt object.values
  match ← Task.ofUpdate (·.indexOf keys key) with
  | some index => return (index, values)
  | none => throw (.keyNotFound key)

/-- The value of a key. -/
def lookup (object : ObjectCells) (key : String) : Task Memory Value := do
  let (index, values) ← object.find key
  Task.ofUpdate (·.element values index)

/-- Whether there is an entry with a key. -/
def contains (object : ObjectCells) (key : String) : Task Memory Bool := do
  try
    let _ ← object.find key
    return true
  catch
    | .keyNotFound _ => return false
    | fault => throw fault

/-- Replaces the value of a key.  If the slot of the value is null, the value gets a new
cell. -/
def replace (object : ObjectCells) (key : String) (value : Value) : Task Memory Unit := do
  let (index, values) ← object.find key
  match (← get).slot values index with
  | some address => modify (·.write address value)
  | none =>
      let address ← Task.ofUpdate (·.allocate value)
      modify (·.setSlot values index (some address))

/-- Adds an entry at the end of the keys, whether or not there is one with that key. -/
def insert (object : ObjectCells) (key : String) (value : Value) : Task Memory Unit := do
  let keys ← Memory.listAt object.keys
  let values ← Memory.listAt object.values
  let index := (← get).listLength keys
  let keyAddress ← Task.ofUpdate (·.allocate (.text key))
  modify (·.setSlot keys index (some keyAddress))
  let valueAddress ← Task.ofUpdate (·.allocate value)
  modify (·.setSlot values index (some valueAddress))

end ObjectCells

end ScriptMachine
