import ScriptMachine.Proofs.Objects.Usage

/-!
# Objects in memory

Where the parts of an object are, and what the operations on objects do there.  A
`Placement` has the cells and lists of an object with its entries, and `Placement.In` states
that they are used for nothing else and hold what they should.  An operation then does what
it should do with the entries of a sequence, and leaves the parts of all other objects alone.

All that is read is inside the memory, so that operations which change no entry change nothing
at all.
-/

namespace ScriptMachine

/-! ## Entries -/

/-- Keys with values, in order. -/
abbrev Entries := List (String × Value)

namespace Entries

/-- The value of the first entry with a key. -/
def valueOf? (entries : Entries) (key : String) : Option Value :=
  (entries.find? fun entry => entry.1 = key).map Prod.snd

/-- The index of the first entry with a key. -/
def indexOf? (entries : Entries) (key : String) : Option Nat :=
  entries.findIdx? fun entry => entry.1 = key

/-- The entries with another value in the first one with a key. -/
def withValue? (entries : Entries) (key : String) (value : Value) : Option Entries :=
  (entries.indexOf? key).map fun index => entries.set index (key, value)

theorem valueOf?_eq (entries : Entries) (key : String) :
    entries.valueOf? key = ((entries.indexOf? key).bind (entries[·]?)).map Prod.snd := by
  rw [valueOf?, List.find?_eq_bind_findIdx?_getElem?, indexOf?]

theorem withValue?_eq_none_iff (entries : Entries) (key : String) (value : Value) :
    entries.withValue? key value = none ↔ entries.valueOf? key = none := by
  simp [withValue?, valueOf?, indexOf?]

end Entries

/-- A key and a value, and the cells that hold them. -/
structure PlacedEntry where
  key : String
  value : Value
  keyCell : Address
  valueCell : Address

/-- Where an object is, and its entries. -/
structure Placement where
  cell : Address
  cells : ObjectCells
  keys : ListHandle
  values : ListHandle
  entries : List PlacedEntry

namespace Placement

/-- The entries of an object, wherever they are. -/
def contents (object : Placement) : Entries :=
  object.entries.map fun entry => (entry.key, entry.value)

/-- What looking for a key in an object comes to: the first entry with it, or nothing. -/
inductive Finds (object : Placement) (key : String) : Prop where
  | entry {index : Nat} {entry : PlacedEntry} (listed : object.entries[index]? = some entry)
      (key_eq : entry.key = key) (index_eq : object.contents.indexOf? key = some index)
      (value_eq : object.contents.valueOf? key = some entry.value)
  | nothing (index_eq : object.contents.indexOf? key = none)
      (value_eq : object.contents.valueOf? key = none)

theorem finds (object : Placement) (key : String) : object.Finds key := by
  have value_eq := object.contents.valueOf?_eq key
  cases found : object.contents.indexOf? key with
  | none =>
      rw [found] at value_eq
      exact .nothing found value_eq
  | some index =>
      obtain ⟨index_lt, isKey, -⟩ := List.findIdx?_eq_some_iff_getElem.mp found
      simp only [contents, List.length_map, List.getElem_map, decide_eq_true_eq] at index_lt isKey
      have listed := List.getElem?_eq_getElem index_lt
      have listedContents : object.contents[index]? =
          some (object.entries[index].key, object.entries[index].value) := by
        rw [contents, List.getElem?_map, listed, Option.map_some]
      rw [found, Option.bind_some, listedContents] at value_eq
      exact .entry listed isKey found value_eq

/-- The object of a number is in a memory. -/
structure In (object : Placement) (usage : Usage) (number : Nat) : Prop where
  cell : usage.CellIs ⟨number, .object⟩ object.cell (.object object.cells)
  keysCell : usage.CellIs ⟨number, .keysCell⟩ object.cells.keys (.list object.keys)
  valuesCell : usage.CellIs ⟨number, .valuesCell⟩ object.cells.values (.list object.values)
  keys : usage.ListIs ⟨number, .keys⟩ object.keys
    (object.entries.map fun entry => some entry.keyCell)
  values : usage.ListIs ⟨number, .values⟩ object.values
    (object.entries.map fun entry => some entry.valueCell)
  key : ∀ {index entry}, object.entries[index]? = some entry →
    usage.CellIs ⟨number, .key index⟩ entry.keyCell (.text entry.key)
  value : ∀ {index entry}, object.entries[index]? = some entry →
    usage.CellIs ⟨number, .value index⟩ entry.valueCell entry.value

/-- An object stays where its parts do. -/
theorem In.keep {object : Placement} {before after : Usage} {number : Nat}
    (placed : object.In before number) (keeps : ∀ part, before.Keeps after ⟨number, part⟩) :
    object.In after number where
  cell := (keeps _).cell placed.cell
  keysCell := (keeps _).cell placed.keysCell
  valuesCell := (keeps _).cell placed.valuesCell
  keys := (keeps _).list placed.keys
  values := (keeps _).list placed.values
  key found := (keeps _).cell (placed.key found)
  value found := (keeps _).cell (placed.value found)

end Placement

/-- An object of a memory becomes another in the same cell, and no other object changes. -/
structure Usage.Changes (before after : Usage) (number : Nat) (object changed : Placement) :
    Prop where
  placed : changed.In after number
  cell_eq : changed.cell = object.cell
  others : ∀ use, use.object ≠ number → before.Keeps after use

theorem Usage.Changes.refl {usage : Usage} {number : Nat} {object : Placement}
    (placed : object.In usage number) : usage.Changes usage number object object where
  placed := placed
  cell_eq := rfl
  others use _ := .refl usage use

namespace Placement

/-- The objects are in a memory, each under its number. -/
def AllIn (usage : Usage) (objects : List Placement) : Prop :=
  ∀ number object, objects[number]? = some object → In object usage number

variable {before after : Usage} {objects : List Placement}

theorem AllIn.keep (placed : AllIn before objects) (keeps : ∀ use, before.Keeps after use) :
    AllIn after objects :=
  fun number object found => (placed number object found).keep fun _ => keeps _

/-- One more object. -/
theorem AllIn.add {object : Placement} (placed : AllIn before objects)
    (keeps : ∀ use, before.Keeps after use) (added : object.In after objects.length) :
    AllIn after (objects ++ [object]) := by
  intro number other found
  rcases Nat.lt_trichotomy number objects.length with earlier | rfl | behind
  · rw [List.getElem?_append_left earlier] at found
    exact placed.keep keeps number other found
  · rw [List.getElem?_concat_length] at found
    cases found
    exact added
  · have outside : (objects ++ [object]).length ≤ number := by
      rw [List.length_append]
      exact behind
    rw [List.getElem?_eq_none outside] at found
    cases found

/-- A change of one object. -/
theorem AllIn.set {number : Nat} {object changed : Placement} (placed : AllIn before objects)
    (changes : before.Changes after number object changed) :
    AllIn after (objects.set number changed) := by
  intro other listed found
  rw [List.getElem?_set] at found
  split at found
  · rename_i same
    subst same
    split at found
    · cases found
      exact changes.placed
    · cases found
  · rename_i different
    apply (placed other listed found).keep
    intro part
    exact changes.others _ (Ne.symm different)

end Placement

/-! ## Reading -/

namespace Usage

variable {usage : Usage} {use : Use} {address : Address}

theorem CellIs.extend_eq {value : Value} (is : usage.CellIs use address value) :
    usage.memory.extend address = usage.memory :=
  Memory.extend_of_lt (usage.cell_lt is.1)

theorem CellIs.run_listAt {handle : ListHandle} (is : usage.CellIs use address (.list handle)) :
    (Memory.listAt address).run usage.memory = (.ok handle, usage.memory) := by
  rw [Memory.run_listAt, is.2, is.extend_eq]
  rfl

end Usage

namespace Placement.In

variable {object : Placement} {usage : Usage} {number : Nat}

/-! ## Finding -/

/-- The elements of the list of keys are the keys, and reading them changes nothing. -/
theorem elements_keys (placed : object.In usage number) :
    usage.memory.elements object.keys =
      (object.contents.map fun entry => .text entry.1, usage.memory) := by
  have key_of_mem {entry : PlacedEntry} (member : entry ∈ object.entries) :
      ∃ use, usage.CellIs use entry.keyCell (.text entry.key) := by
    obtain ⟨index, found⟩ := List.mem_iff_getElem?.mp member
    exact ⟨_, placed.key found⟩
  rw [Memory.elements, placed.keys.2, List.toList_toArray, Memory.readSlots_of_lt]
  · simp only [contents, List.map_map]
    congr 1
    apply List.map_congr_left
    intro entry member
    obtain ⟨use, is⟩ := key_of_mem member
    exact is.2
  · intro address member
    obtain ⟨entry, listed, ⟨⟩⟩ := List.mem_map.mp member
    obtain ⟨use, is⟩ := key_of_mem listed
    exact usage.cell_lt is.1

theorem indexOf_keys (placed : object.In usage number) (key : String) :
    usage.memory.indexOf object.keys key = (object.contents.indexOf? key, usage.memory) := by
  simp only [Memory.indexOf, placed.elements_keys, List.findIdx?_map, Entries.indexOf?]
  rfl

/-- The first entry with a key is found without a change of the memory. -/
theorem run_find (placed : object.In usage number) (key : String) :
    (object.cells.find key).run usage.memory =
      match object.contents.indexOf? key with
      | some index => (.ok (index, object.values), usage.memory)
      | none => (.error (.keyNotFound key), usage.memory) := by
  simp only [ObjectCells.find, Task.run_bind, placed.keysCell.run_listAt,
    placed.valuesCell.run_listAt, Task.run_ofUpdate, placed.indexOf_keys]
  cases object.contents.indexOf? key <;> rfl

theorem slot_values (placed : object.In usage number) {index : Nat} {entry : PlacedEntry}
    (found : object.entries[index]? = some entry) :
    usage.memory.slot object.values index = some entry.valueCell := by
  simp [Memory.slot, placed.values.2, found]

theorem element_values (placed : object.In usage number) {index : Nat} {entry : PlacedEntry}
    (found : object.entries[index]? = some entry) :
    usage.memory.element object.values index = (entry.value, usage.memory) := by
  have is := placed.value found
  rw [Memory.element, placed.slot_values found, Memory.readSlot, Memory.lookupSlot,
    Memory.extendSlot, is.2, is.extend_eq]

/-! ## Asking -/

theorem listLength_keys (placed : object.In usage number) :
    usage.memory.listLength object.keys = object.entries.length := by
  simp [Memory.listLength, placed.keys.2]

theorem run_length (placed : object.In usage number) :
    object.cells.length.run usage.memory = (.ok object.contents.length, usage.memory) := by
  simp only [ObjectCells.length, Task.run_bind, placed.keysCell.run_listAt, Task.run_get,
    Task.run_pure, placed.listLength_keys, contents, List.length_map]

theorem run_lookup (placed : object.In usage number) (key : String) :
    (object.cells.lookup key).run usage.memory =
      match object.contents.valueOf? key with
      | some value => (.ok value, usage.memory)
      | none => (.error (.keyNotFound key), usage.memory) := by
  cases object.finds key with
  | entry listed key_eq index_eq value_eq =>
      simp only [ObjectCells.lookup, Task.run_bind, placed.run_find, index_eq, value_eq,
        Task.run_ofUpdate, placed.element_values listed]
  | nothing index_eq value_eq =>
      simp only [ObjectCells.lookup, Task.run_bind, placed.run_find, index_eq, value_eq]

theorem run_contains (placed : object.In usage number) (key : String) :
    (object.cells.contains key).run usage.memory =
      (.ok (object.contents.valueOf? key).isSome, usage.memory) := by
  simp only [ObjectCells.contains, Task.run_bind, Task.run_tryCatch, placed.run_find]
  cases object.finds key with
  | entry listed key_eq index_eq value_eq =>
      rw [index_eq, value_eq]
      rfl
  | nothing index_eq value_eq =>
      rw [index_eq, value_eq]
      rfl

/-! ## Replacing a value -/

/-- The entries with a value replaced have the same cells. -/
theorem map_set_value {α : Type} {index : Nat} {entry : PlacedEntry} {entries : List PlacedEntry}
    (found : entries[index]? = some entry) (value : Value) (part : PlacedEntry → α)
    (part_eq : part { entry with value := value } = part entry) :
    (entries.set index { entry with value := value }).map part = entries.map part := by
  obtain ⟨index_lt, rfl⟩ := List.getElem?_eq_some_iff.mp found
  have mapped_lt : index < (entries.map part).length := by simpa using index_lt
  have mapped : part entries[index] = (entries.map part)[index] := (List.getElem_map part).symm
  rw [List.map_set, part_eq, mapped, List.set_getElem_self]

/-- The object with the value written that an entry has in place of its own. -/
theorem changes_write (placed : object.In usage number) {index : Nat} {entry : PlacedEntry}
    (found : object.entries[index]? = some entry) (value : Value) :
    usage.Changes (usage.write entry.valueCell value) number object
      { object with entries := object.entries.set index { entry with value := value } } := by
  have is := placed.value found
  have keeps {use : Use} (use_ne : use ≠ ⟨number, .value index⟩) :
      usage.Keeps (usage.write entry.valueCell value) use :=
    usage.keeps_write is.1 use_ne
  have cases_set {other : Nat} {listed : PlacedEntry}
      (found' : (object.entries.set index { entry with value := value })[other]? = some listed) :
      (other = index ∧ listed = { entry with value := value }) ∨
        (other ≠ index ∧ object.entries[other]? = some listed) := by
    rw [List.getElem?_set] at found'
    split at found'
    · rename_i same
      split at found'
      · exact .inl ⟨same.symm, (Option.some.inj found').symm⟩
      · cases found'
    · rename_i different
      exact .inr ⟨Ne.symm different, found'⟩
  refine ⟨?_, rfl, ?_⟩
  · constructor
    · exact (keeps (by simp)).cell placed.cell
    · exact (keeps (by simp)).cell placed.keysCell
    · exact (keeps (by simp)).cell placed.valuesCell
    · rw [map_set_value found value (fun entry => some entry.keyCell) rfl]
      exact (keeps (by simp)).list placed.keys
    · rw [map_set_value found value (fun entry => some entry.valueCell) rfl]
      exact (keeps (by simp)).list placed.values
    · intro other listed found'
      apply (keeps (by simp)).cell
      rcases cases_set found' with ⟨rfl, rfl⟩ | ⟨-, unchanged⟩
      · have is := placed.key found
        exact is
      · exact placed.key unchanged
    · intro other listed found'
      rcases cases_set found' with ⟨rfl, rfl⟩ | ⟨different, unchanged⟩
      · exact is.write value
      · exact (keeps (by simpa using different)).cell (placed.value unchanged)
  · intro use use_ne
    apply keeps
    rintro rfl
    exact use_ne rfl

/-- The value of a key that there is is replaced, and else nothing changes. -/
theorem run_replace (placed : object.In usage number) (key : String) (value : Value) :
    match object.contents.withValue? key value with
    | some contents => ∃ after changed,
        (object.cells.replace key value).run usage.memory = (.ok (), after.memory) ∧
          usage.Changes after number object changed ∧ changed.contents = contents
    | none =>
        (object.cells.replace key value).run usage.memory =
          (.error (.keyNotFound key), usage.memory) := by
  simp only [ObjectCells.replace, Task.run_bind, placed.run_find, Entries.withValue?]
  cases object.finds key with
  | entry listed key_eq index_eq value_eq =>
      rw [index_eq, ← key_eq]
      refine ⟨_, _, ?_, placed.changes_write listed value, ?_⟩
      · simp only [Task.run_get, placed.slot_values listed]
        rfl
      · simp only [contents, List.map_set]
  | nothing index_eq value_eq =>
      rw [index_eq]
      rfl

end Placement.In

/-! ## Adding an entry -/

namespace Placement

variable (object : Placement) (usage : Usage) (number : Nat) (key : String) (value : Value)

/-- The memory with another key behind those of an object. -/
def withKey : Usage :=
  usage.append object.keys object.entries.length (.text key) ⟨number, .key object.entries.length⟩

/-- The memory with another key and another value behind those of an object. -/
def withEntry : Usage :=
  (object.withKey usage number key).append object.values object.entries.length value
    ⟨number, .value object.entries.length⟩

/-- The entry in the cells that it gets. -/
def newEntry : PlacedEntry where
  key := key
  value := value
  keyCell := (usage.memory.allocate (.text key)).1
  valueCell := ((object.withKey usage number key).memory.allocate value).1

variable {object usage number}

namespace In

theorem changes_withEntry (placed : object.In usage number) :
    usage.Changes (object.withEntry usage number key value) number object
      { object with entries := object.entries ++ [object.newEntry usage number key value] } := by
  have keepsKey {use : Use} (use_ne : use ≠ ⟨number, .keys⟩) :
      usage.Keeps (object.withKey usage number key) use :=
    usage.keeps_append placed.keys.1 use_ne
  have keepsValue {use : Use} (use_ne : use ≠ ⟨number, .values⟩) :
      (object.withKey usage number key).Keeps (object.withEntry usage number key value) use :=
    Usage.keeps_append ((keepsKey (by simp)).list placed.values).1 use_ne
  have keeps {use : Use} (keys_ne : use ≠ ⟨number, .keys⟩) (values_ne : use ≠ ⟨number, .values⟩) :
      usage.Keeps (object.withEntry usage number key value) use :=
    (keepsKey keys_ne).trans (keepsValue values_ne)
  have keys := placed.keys.append (.text key) ⟨number, .key object.entries.length⟩
  have values := ((keepsKey (by simp)).list placed.values).append value
    ⟨number, .value object.entries.length⟩
  rw [List.length_map] at keys values
  have cases_append {index : Nat} {listed : PlacedEntry}
      (found : (object.entries ++ [object.newEntry usage number key value])[index]? =
        some listed) :
      object.entries[index]? = some listed ∨
        index = object.entries.length ∧ listed = object.newEntry usage number key value := by
    grind
  refine ⟨?_, rfl, ?_⟩
  · constructor
    · exact (keeps (by simp) (by simp)).cell placed.cell
    · exact (keeps (by simp) (by simp)).cell placed.keysCell
    · exact (keeps (by simp) (by simp)).cell placed.valuesCell
    · rw [List.map_append]
      exact (keepsValue (by simp)).list keys
    · rw [List.map_append]
      exact values
    · intro index listed found
      rcases cases_append found with earlier | ⟨rfl, rfl⟩
      · exact (keeps (by simp) (by simp)).cell (placed.key earlier)
      · exact (keepsValue (by simp)).cell (usage.cellIs_append _ _ _ _)
    · intro index listed found
      rcases cases_append found with earlier | ⟨rfl, rfl⟩
      · exact (keeps (by simp) (by simp)).cell (placed.value earlier)
      · exact Usage.cellIs_append _ _ _ _ _
  · intro use use_ne
    apply keeps <;>
      · rintro rfl
        exact use_ne rfl

/-- An entry is added at the end, whatever keys there are. -/
theorem run_insert (placed : object.In usage number) (key : String) (value : Value) :
    (object.cells.insert key value).run usage.memory =
      (.ok (), (object.withEntry usage number key value).memory) := by
  simp only [ObjectCells.insert, Task.run_bind, placed.keysCell.run_listAt,
    placed.valuesCell.run_listAt, Task.run_get, placed.listLength_keys]
  rfl

end In

/-! ## New objects -/

section New

variable (usage : Usage) (number : Nat)

/-- The memory with the list of keys of a new object. -/
def withKeys : Usage := usage.createList (some ⟨number, .keys⟩) (some ⟨number, .keysCell⟩)

/-- The memory with both lists of a new object. -/
def withLists : Usage :=
  (withKeys usage number).createList (some ⟨number, .values⟩) (some ⟨number, .valuesCell⟩)

/-- The cells of the lists of a new object. -/
def newCells : ObjectCells where
  keys := usage.memory.createList.1
  values := (withKeys usage number).memory.createList.1

/-- The memory with a new object. -/
def withObject : Usage :=
  (withLists usage number).allocate (.object (newCells usage number)) (some ⟨number, .object⟩)

/-- The new object, without entries. -/
def new : Placement where
  cell := usage.memory.createObject.1
  cells := newCells usage number
  keys := (usage.memory.newList #[]).1
  values := ((withKeys usage number).memory.newList #[]).1
  entries := []

theorem keeps_withObject (use : Use) : usage.Keeps (withObject usage number) use :=
  ((usage.keeps_createList _ _ use).trans (Usage.keeps_createList _ _ _ use)).trans
    (Usage.keeps_allocate _ _ _ use)

theorem in_new : (new usage number).In (withObject usage number) number where
  cell := Usage.cellIs_allocate _ _ _
  keysCell := by
    have is := usage.cellIs_createList (some ⟨number, .keys⟩) ⟨number, .keysCell⟩
    exact (Usage.keeps_allocate _ _ _ _).cell ((Usage.keeps_createList _ _ _ _).cell is)
  valuesCell := by
    have is := (withKeys usage number).cellIs_createList (some ⟨number, .values⟩)
      ⟨number, .valuesCell⟩
    exact (Usage.keeps_allocate _ _ _ _).cell is
  keys := by
    have is := usage.listIs_createList ⟨number, .keys⟩ (some ⟨number, .keysCell⟩)
    exact (Usage.keeps_allocate _ _ _ _).list ((Usage.keeps_createList _ _ _ _).list is)
  values := by
    have is := (withKeys usage number).listIs_createList ⟨number, .values⟩
      (some ⟨number, .valuesCell⟩)
    exact (Usage.keeps_allocate _ _ _ _).list is
  key found := by cases found
  value found := by cases found

end New

end Placement

end ScriptMachine
