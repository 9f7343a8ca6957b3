import ScriptMachine.Proofs.Memory.Growth

/-!
# What cells and lists are used for

The cells and lists of several objects lie in one memory, and that no two objects share any
is not seen from their addresses.  A `Usage` writes down beside a memory which object uses a
cell or a list, and for what.  As there is only one note for each, whatever is used
differently is different, and new cells and lists are not used before.

`Usage.Keeps` states that what is used in one way stays as it is, and is known for every
change of the memory and of the notes.
-/

namespace ScriptMachine

/-- The parts of an object: its own cell, the cells of its two lists, the lists themselves, and
the cells of its keys and values. -/
inductive Part where
  | object
  | keysCell
  | valuesCell
  | keys
  | values
  | key (index : Nat)
  | value (index : Nat)
  deriving DecidableEq

/-- What a cell or a list is used for: an object, by its number, and a part of it. -/
structure Use where
  object : Nat
  part : Part
  deriving DecidableEq

/-- A memory, and what its cells and lists are used for. -/
structure Usage where
  memory : Memory
  ofCell : Address → Option Use
  ofList : ListHandle → Option Use
  cell_lt : ∀ {address use}, ofCell address = some use → address.index < memory.size
  list_lt : ∀ {handle use}, ofList handle = some use → handle.index < memory.lists.size

namespace Usage

/-! ## Changes -/

/-- A memory of which nothing is used. -/
def unused (memory : Memory) : Usage where
  memory := memory
  ofCell _ := none
  ofList _ := none
  cell_lt := by simp
  list_lt := by simp

/-- The memory with more empty cells, which are not used. -/
def extend (usage : Usage) (address : Address) : Usage where
  memory := usage.memory.extend address
  ofCell := usage.ofCell
  ofList := usage.ofList
  cell_lt used :=
    Nat.lt_of_lt_of_le (usage.cell_lt used) (usage.memory.paddedTo_extend address).size_le
  list_lt used := by
    rw [Memory.lists_extend]
    exact usage.list_lt used

/-- The memory with a new cell. -/
def allocate (usage : Usage) (value : Value) (use : Option Use) : Usage where
  memory := (usage.memory.allocate value).2
  ofCell address := if address = (usage.memory.allocate value).1 then use else usage.ofCell address
  ofList := usage.ofList
  cell_lt {address _} used := by
    rw [Memory.size_allocate]
    split at used
    · rename_i new
      rw [new]
      exact Nat.lt_succ_self _
    · exact Nat.lt_succ_of_lt (usage.cell_lt used)
  list_lt used := usage.list_lt used

/-- The memory with a new list without slots. -/
def newList (usage : Usage) (use : Option Use) : Usage where
  memory := (usage.memory.newList #[]).2
  ofCell := usage.ofCell
  ofList handle := if handle = (usage.memory.newList #[]).1 then use else usage.ofList handle
  cell_lt used := usage.cell_lt used
  list_lt {handle _} used := by
    rw [Memory.size_lists_newList]
    by_cases new : handle = (usage.memory.newList #[]).1
    · rw [new]
      exact Nat.lt_succ_self _
    · rw [if_neg new] at used
      exact Nat.lt_succ_of_lt (usage.list_lt used)

/-- The memory with another value in a cell. -/
def write (usage : Usage) (address : Address) (value : Value) : Usage where
  memory := usage.memory.write address value
  ofCell := usage.ofCell
  ofList := usage.ofList
  cell_lt used := by
    rw [Memory.size_write]
    exact Nat.lt_of_lt_of_le (usage.cell_lt used) (Nat.le_max_left _ _)
  list_lt used := by
    rw [Memory.lists_write]
    exact usage.list_lt used

/-- The memory with another slot in a list. -/
def setSlot (usage : Usage) (handle : ListHandle) (index : Nat) (address : Option Address) :
    Usage where
  memory := usage.memory.setSlot handle index address
  ofCell := usage.ofCell
  ofList := usage.ofList
  cell_lt used := usage.cell_lt used
  list_lt used := by
    rw [Memory.setSlot, Memory.withSlots, Table.size_set]
    exact Nat.lt_of_lt_of_le (usage.list_lt used) (Nat.le_max_left _ _)

/-! ## Uses -/

/-- A cell is used so and holds a value. -/
def CellIs (usage : Usage) (use : Use) (address : Address) (value : Value) : Prop :=
  usage.ofCell address = some use ∧ usage.memory.lookup address = value

/-- A list is used so and has slots. -/
def ListIs (usage : Usage) (use : Use) (handle : ListHandle) (slots : List (Option Address)) :
    Prop :=
  usage.ofList handle = some use ∧ usage.memory.slots handle = slots.toArray

/-- All that is used so is used so and the same in another memory. -/
structure Keeps (before after : Usage) (use : Use) : Prop where
  cell : ∀ {address value}, before.CellIs use address value → after.CellIs use address value
  list : ∀ {handle slots}, before.ListIs use handle slots → after.ListIs use handle slots

variable {before middle after usage : Usage} {use : Use}

theorem Keeps.refl (usage : Usage) (use : Use) : usage.Keeps usage use := ⟨id, id⟩

theorem Keeps.trans (first : before.Keeps middle use) (second : middle.Keeps after use) :
    before.Keeps after use where
  cell is := second.cell (first.cell is)
  list is := second.list (first.list is)

theorem keeps_extend (usage : Usage) (address : Address) (use : Use) :
    usage.Keeps (usage.extend address) use where
  cell is := ⟨is.1, (usage.memory.lookup_extend address _).trans is.2⟩
  list is := ⟨is.1, ((usage.memory.paddedTo_extend address).slots_eq _).trans is.2⟩

theorem keeps_allocate (usage : Usage) (value : Value) (newUse : Option Use) (use : Use) :
    usage.Keeps (usage.allocate value newUse) use where
  cell {address _} is := by
    have old : address.index ≠ usage.memory.size := Nat.ne_of_lt (usage.cell_lt is.1)
    have different : address ≠ (usage.memory.allocate value).1 := by
      rintro rfl
      exact old rfl
    constructor
    · simp only [allocate, if_neg different]
      exact is.1
    · simp only [allocate, Memory.lookup_allocate, if_neg old]
      exact is.2
  list is := is

theorem keeps_newList (usage : Usage) (newUse : Option Use) (use : Use) :
    usage.Keeps (usage.newList newUse) use where
  cell is := is
  list {handle _} is := by
    have different : handle ≠ (usage.memory.newList #[]).1 := by
      rintro rfl
      exact Nat.lt_irrefl _ (usage.list_lt is.1)
    constructor
    · simp only [newList, if_neg different]
      exact is.1
    · have slots_eq := usage.memory.slots_withSlots (usage.memory.newList #[]).1 handle #[]
      rw [if_neg different] at slots_eq
      exact slots_eq.trans is.2

theorem keeps_write {address : Address} {value : Value} {written : Use}
    (used : usage.ofCell address = some written) (use_ne : use ≠ written) :
    usage.Keeps (usage.write address value) use where
  cell {other _} is := by
    -- A cell has one note only.
    have different : other ≠ address := by
      rintro rfl
      exact use_ne (Option.some.inj (is.1.symm.trans used))
    constructor
    · exact is.1
    · simp only [write, Memory.lookup_write, if_neg different]
      exact is.2
  list is := ⟨is.1, by
    rw [← is.2]
    simp only [write, Memory.slots, Memory.lists_write]⟩

theorem keeps_setSlot {handle : ListHandle} {index : Nat} {address : Option Address}
    {stored : Use} (used : usage.ofList handle = some stored) (use_ne : use ≠ stored) :
    usage.Keeps (usage.setSlot handle index address) use where
  cell is := is
  list {other _} is := by
    have different : other ≠ handle := by
      rintro rfl
      exact use_ne (Option.some.inj (is.1.symm.trans used))
    constructor
    · exact is.1
    · simp only [setSlot, Memory.setSlot, Memory.slots_withSlots, if_neg different]
      exact is.2

/-! ## What is new -/

theorem cellIs_allocate (usage : Usage) (value : Value) (use : Use) :
    (usage.allocate value (some use)).CellIs use (usage.memory.allocate value).1 value := by
  constructor
  · simp only [allocate, if_true]
  · simp only [allocate, Memory.lookup_allocate, Memory.index_allocate, if_true]

theorem listIs_newList (usage : Usage) (use : Use) :
    (usage.newList (some use)).ListIs use (usage.memory.newList #[]).1 [] := by
  constructor
  · simp only [newList, if_true]
  · have slots_eq := usage.memory.slots_withSlots (usage.memory.newList #[]).1
      (usage.memory.newList #[]).1 #[]
    rw [if_pos rfl] at slots_eq
    exact slots_eq

theorem CellIs.write {address : Address} {value : Value} (is : usage.CellIs use address value)
    (written : Value) : (usage.write address written).CellIs use address written := by
  constructor
  · exact is.1
  · simp only [Usage.write, Memory.lookup_write, if_true]

/-- An address stored behind the last slot becomes the last slot. -/
theorem ListIs.push {handle : ListHandle} {slots : List (Option Address)}
    (is : usage.ListIs use handle slots) (address : Address) :
    (usage.setSlot handle slots.length (some address)).ListIs use handle
      (slots ++ [some address]) := by
  constructor
  · exact is.1
  · have stored := Memory.storeSlot_size slots.toArray address
    rw [List.size_toArray] at stored
    simp only [setSlot, Memory.setSlot, Memory.slots_withSlots, if_true, is.2, stored,
      List.push_toArray]

/-! ## Adding an element -/

/-- The memory with a value in a new cell and the cell in a slot of a list. -/
def append (usage : Usage) (handle : ListHandle) (index : Nat) (value : Value) (use : Use) :
    Usage :=
  (usage.allocate value (some use)).setSlot handle index (some (usage.memory.allocate value).1)

variable {handle : ListHandle} {index : Nat} {value : Value} {newUse stored : Use}

theorem keeps_append (used : usage.ofList handle = some stored) (use_ne : use ≠ stored) :
    usage.Keeps (usage.append handle index value newUse) use :=
  (usage.keeps_allocate value _ use).trans (keeps_setSlot used use_ne)

theorem cellIs_append (usage : Usage) (handle : ListHandle) (index : Nat) (value : Value)
    (use : Use) :
    (usage.append handle index value use).CellIs use (usage.memory.allocate value).1 value :=
  usage.cellIs_allocate value use

/-- A value added behind the last element is the last one. -/
theorem ListIs.append {slots : List (Option Address)} (is : usage.ListIs use handle slots)
    (value : Value) (newUse : Use) :
    (usage.append handle slots.length value newUse).ListIs use handle
      (slots ++ [some (usage.memory.allocate value).1]) :=
  ((usage.keeps_allocate value _ use).list is).push _

/-! ## New lists -/

/-- The memory with a new list without slots, in a new cell. -/
def createList (usage : Usage) (listUse cellUse : Option Use) : Usage :=
  (usage.newList listUse).allocate (.list (usage.memory.newList #[]).1) cellUse

theorem keeps_createList (usage : Usage) (listUse cellUse : Option Use) (use : Use) :
    usage.Keeps (usage.createList listUse cellUse) use :=
  (usage.keeps_newList listUse use).trans (keeps_allocate _ _ cellUse use)

theorem listIs_createList (usage : Usage) (listUse : Use) (cellUse : Option Use) :
    (usage.createList (some listUse) cellUse).ListIs listUse (usage.memory.newList #[]).1 [] :=
  (keeps_allocate _ _ cellUse listUse).list (usage.listIs_newList listUse)

theorem cellIs_createList (usage : Usage) (listUse : Option Use) (cellUse : Use) :
    (usage.createList listUse (some cellUse)).CellIs cellUse usage.memory.createList.1
      (.list (usage.memory.newList #[]).1) :=
  cellIs_allocate _ _ cellUse

end Usage

end ScriptMachine
