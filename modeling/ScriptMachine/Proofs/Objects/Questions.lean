import ScriptMachine.Memory.Objects
import ScriptMachine.Proofs.Memory.Growth

/-!
# Questions about objects

The lists of an object are wherever its two addresses lead, and nothing keeps a program from making
an object of any two addresses: of cells that do not exist, of cells that hold no lists, or of one
cell for both.  What is found in such an object is read off a memory without changing it, as the
list in a cell, the index of a key and the entry of a key.

`Task.Asks` states that a task comes to such a result and does nothing but pad the memory on the
way, and `Task.Attempts` that it has done nothing else if it ends with a fault.  Looking something
up is asking.  Adding and replacing an entry first ask for everything that can be refused, and
change the memory only when nothing more can be.
-/

namespace ScriptMachine

/-! ## What is in a memory -/

namespace Memory

/-- The second memory holds in all cells and lists what the first does, and has nothing but empty
cells behind those of the first. -/
def IsKeptIn (before after : Memory) : Prop :=
  (∀ handle, after.slots handle = before.slots handle) ∧
    (∀ address, (after.read address).1 = (before.read address).1) ∧
    ∃ count, after.cells = before.cells ++ Array.replicate count .none

/-- The list in a cell, or the fault if there is none. -/
def listIn (memory : Memory) (address : Address) : Except Fault ListHandle :=
  (memory.lookup address).asList.mapError .typeMismatch

/-- The index of the first slot of a list that leads to a key. -/
def keyIndex? (memory : Memory) (keys : ListHandle) (key : String) : Option Nat :=
  (memory.slots keys).toList.findIdx? fun slot => hasText key (memory.lookupSlot slot)

namespace PaddedTo

variable {before after : Memory} (padded : before.PaddedTo after)

include padded

theorem isKeptIn : before.IsKeptIn after := ⟨padded.slots_eq, padded.lookup_eq, _, padded.cells_eq⟩

theorem listIn_eq (address : Address) : after.listIn address = before.listIn address := by
  rw [listIn, listIn, padded.lookup_eq]

theorem keyIndex?_eq (keys : ListHandle) (key : String) :
    after.keyIndex? keys key = before.keyIndex? keys key := by
  simp only [keyIndex?, padded.slots_eq, padded.lookupSlot_eq]

end PaddedTo

end Memory

/-! ## Asking -/

namespace Task

variable {α β : Type}

/-- From a memory, a task comes to a result and does nothing but pad the memory. -/
def Asks (task : Task Memory α) (memory : Memory) (result : Except Fault α) : Prop :=
  ∃ after, task.run memory = (result, after) ∧ memory.PaddedTo after

/-- From a memory, a task comes to a result, and does nothing but pad the memory if that is a
fault. -/
def Attempts (task : Task Memory α) (memory : Memory) (result : Except Fault α) : Prop :=
  ∃ after, task.run memory = (result, after) ∧
    ∀ cause, result = .error cause → memory.PaddedTo after

variable {task : Task Memory α} {memory after : Memory} {result : Except Fault α}

theorem Attempts.of_run_ok {value : α} (run : task.run memory = (.ok value, after)) :
    task.Attempts memory (.ok value) :=
  ⟨after, run, fun _ failed => by cases failed⟩

theorem Attempts.result_eq (attempts : task.Attempts memory result) :
    (task.run memory).1 = result := by
  obtain ⟨after, run, -⟩ := attempts
  rw [run]

theorem Attempts.isKeptIn {cause : Fault} (attempts : task.Attempts memory result)
    (failed : (task.run memory).1 = .error cause) : memory.IsKeptIn (task.run memory).2 := by
  rw [attempts.result_eq] at failed
  obtain ⟨after, run, padded⟩ := attempts
  rw [run]
  exact (padded cause failed).isKeptIn

namespace Asks

theorem attempts (asks : task.Asks memory result) : task.Attempts memory result := by
  obtain ⟨after, run, padded⟩ := asks
  exact ⟨after, run, fun _ _ => padded⟩

theorem isKeptIn (asks : task.Asks memory result) : memory.IsKeptIn (task.run memory).2 := by
  obtain ⟨after, run, padded⟩ := asks
  rw [run]
  exact padded.isKeptIn

/-- What follows a fault is not done. -/
theorem bind_error {cause : Fault} (asks : task.Asks memory (.error cause))
    (next : α → Task Memory β) : (task >>= next).Asks memory (.error cause) := by
  obtain ⟨after, run, padded⟩ := asks
  refine ⟨after, ?_, padded⟩
  rw [run_bind, run]

/-- What follows a result goes on in a padded memory. -/
theorem run_bind_ok {value : α} (asks : task.Asks memory (.ok value)) (next : α → Task Memory β) :
    ∃ after, memory.PaddedTo after ∧ (task >>= next).run memory = (next value).run after := by
  obtain ⟨after, run, padded⟩ := asks
  refine ⟨after, padded, ?_⟩
  rw [run_bind, run]

variable {next : α → Task Memory β} {final : α → Except Fault β}

theorem bind (asks : task.Asks memory result)
    (asks_next : ∀ value after, memory.PaddedTo after → (next value).Asks after (final value)) :
    (task >>= next).Asks memory (result >>= final) := by
  cases result with
  | error cause => exact asks.bind_error next
  | ok value =>
      obtain ⟨middle, padded, run_eq⟩ := asks.run_bind_ok next
      obtain ⟨after, run, padded'⟩ := asks_next value middle padded
      exact ⟨after, run_eq.trans run, padded.trans padded'⟩

/-- A task that asks before it attempts something attempts it. -/
theorem bind_attempts (asks : task.Asks memory result)
    (attempts_next : ∀ value after, memory.PaddedTo after →
      (next value).Attempts after (final value)) :
    (task >>= next).Attempts memory (result >>= final) := by
  cases result with
  | error cause => exact (asks.bind_error next).attempts
  | ok value =>
      obtain ⟨middle, padded, run_eq⟩ := asks.run_bind_ok next
      obtain ⟨after, run, padded'⟩ := attempts_next value middle padded
      exact ⟨after, run_eq.trans run, fun cause failed => padded.trans (padded' cause failed)⟩

end Asks

end Task

namespace Memory

variable (memory : Memory)

theorem asks_listAt (address : Address) :
    (listAt address).Asks memory (memory.listIn address) := by
  refine ⟨memory.extend address, ?_, memory.paddedTo_extend address⟩
  rw [run_listAt, listIn]
  cases (memory.lookup address).asList <;> rfl

theorem asks_indexOf (keys : ListHandle) (key : String) :
    (Task.ofUpdate (·.indexOf keys key)).Asks memory (.ok (memory.keyIndex? keys key)) := by
  have index_eq : (memory.indexOf keys key).1 = memory.keyIndex? keys key := by
    calc (memory.indexOf keys key).1
        = (memory.elements keys).1.findIdx? (hasText key) := rfl
      _ = memory.keyIndex? keys key := by
        rw [elements, fst_readSlots, List.findIdx?_map]
        rfl
  rw [← index_eq]
  exact ⟨_, rfl, memory.paddedTo_indexOf keys key⟩

theorem asks_element (handle : ListHandle) (index : Nat) :
    (Task.ofUpdate (·.element handle index)).Asks memory
      (.ok (memory.lookupSlot (memory.slot handle index))) :=
  ⟨_, rfl, memory.paddedTo_extendSlot _⟩

end Memory

namespace ObjectCells

variable (memory : Memory) (object : ObjectCells)

/-! ## What is in an object -/

/-- The number of entries. -/
def lengthIn : Except Fault Nat := do
  return memory.listLength (← memory.listIn object.keys)

/-- The lists of keys and values. -/
def listsIn : Except Fault (ListHandle × ListHandle) := do
  let keys ← memory.listIn object.keys
  let values ← memory.listIn object.values
  return (keys, values)

/-- The index of the first entry with a key, and the list of values. -/
def entryIn (key : String) : Except Fault (Nat × ListHandle) := do
  let (keys, values) ← object.listsIn memory
  match memory.keyIndex? keys key with
  | some index => return (index, values)
  | none => throw (.keyNotFound key)

/-- The value of a key. -/
def valueIn (key : String) : Except Fault Value := do
  let (index, values) ← object.entryIn memory key
  return memory.lookupSlot (memory.slot values index)

/-- Whether there is an entry with a key. -/
def containsIn (key : String) : Except Fault Bool :=
  match object.entryIn memory key with
  | .ok _ => .ok true
  | .error (.keyNotFound _) => .ok false
  | .error cause => .error cause

/-! ## Lookups -/

theorem asks_length : object.length.Asks memory (object.lengthIn memory) := by
  apply (memory.asks_listAt object.keys).bind
  intro keys after padded
  rw [Memory.listLength, ← padded.slots_eq]
  exact ⟨after, rfl, .refl after⟩

theorem asks_find (key : String) : (object.find key).Asks memory (object.entryIn memory key) := by
  rw [entryIn, listsIn, bind_assoc]
  apply (memory.asks_listAt object.keys).bind
  intro keys middle padded
  rw [← padded.listIn_eq, bind_assoc]
  apply (middle.asks_listAt object.values).bind
  intro values after padded'
  rw [pure_bind]
  dsimp only
  -- The keys are searched in a memory that was padded on the way to either list.
  rw [← padded.keyIndex?_eq, ← padded'.keyIndex?_eq]
  obtain ⟨last, padded, run_eq⟩ := (after.asks_indexOf keys key).run_bind_ok _
  refine ⟨last, run_eq.trans ?_, padded⟩
  cases after.keyIndex? keys key <;> rfl

theorem asks_lookup (key : String) :
    (object.lookup key).Asks memory (object.valueIn memory key) := by
  apply (object.asks_find memory key).bind
  rintro ⟨index, values⟩ after padded
  have asks := after.asks_element values index
  rw [Memory.slot, padded.slots_eq, padded.lookupSlot_eq] at asks
  exact asks

theorem asks_contains (key : String) :
    (object.contains key).Asks memory (object.containsIn memory key) := by
  obtain ⟨after, run, padded⟩ := object.asks_find memory key
  refine ⟨after, ?_, padded⟩
  simp only [contains, Task.run_tryCatch, Task.run_bind, run, containsIn]
  cases object.entryIn memory key with
  | ok found => rfl
  | error cause => cases cause <;> rfl

/-! ## Changes -/

theorem attempts_replace (key : String) (value : Value) :
    (object.replace key value).Attempts memory (do
      let _ ← object.entryIn memory key
      return ()) := by
  apply (object.asks_find memory key).bind_attempts
  rintro ⟨index, values⟩ after -
  cases slot_eq : after.slot values index with
  | some _ | none =>
      apply Task.Attempts.of_run_ok
      simp only [Task.run_bind, Task.run_get, slot_eq]
      rfl

theorem attempts_insert (key : String) (value : Value) :
    (object.insert key value).Attempts memory (do
      let _ ← object.listsIn memory
      return ()) := by
  rw [listsIn, bind_assoc]
  apply (memory.asks_listAt object.keys).bind_attempts
  intro keys middle padded
  rw [← padded.listIn_eq, bind_assoc]
  apply (middle.asks_listAt object.values).bind_attempts
  intro values after _
  exact .of_run_ok rfl

/-- An object may be made of any two addresses of any memory.  Its length, the values of its keys
and whether there are such are found, or not found, by what the memory holds, and no cell and no
list is changed by asking.  An entry is added exactly if both lists are there, and replaced exactly
if its key is also found.  Where this is refused, no cell and no list is changed either. -/
theorem object_operations_clean (key : String) (value : Value) :
    (let outcome := object.length.run memory
     outcome.1 = object.lengthIn memory ∧ memory.IsKeptIn outcome.2) ∧
    (let outcome := (object.lookup key).run memory
     outcome.1 = object.valueIn memory key ∧ memory.IsKeptIn outcome.2) ∧
    (let outcome := (object.contains key).run memory
     outcome.1 = object.containsIn memory key ∧ memory.IsKeptIn outcome.2) ∧
    (let outcome := (object.replace key value).run memory
     outcome.1 = (do let _ ← object.entryIn memory key; return ()) ∧
      ∀ cause, outcome.1 = .error cause → memory.IsKeptIn outcome.2) ∧
    (let outcome := (object.insert key value).run memory
     outcome.1 = (do let _ ← object.listsIn memory; return ()) ∧
      ∀ cause, outcome.1 = .error cause → memory.IsKeptIn outcome.2) := by
  have length := object.asks_length memory
  have lookup := object.asks_lookup memory key
  have contains := object.asks_contains memory key
  have replace := object.attempts_replace memory key value
  have insert := object.attempts_insert memory key value
  exact ⟨⟨length.attempts.result_eq, length.isKeptIn⟩, ⟨lookup.attempts.result_eq, lookup.isKeptIn⟩,
    ⟨contains.attempts.result_eq, contains.isKeptIn⟩,
    ⟨replace.result_eq, fun _ => replace.isKeptIn⟩, ⟨insert.result_eq, fun _ => insert.isKeptIn⟩⟩

/-- A memory with one list, in the first cell, whose slots are null, a cell that does not exist and
the cell of the list itself. -/
def knottedMemory : Memory :=
  ((Memory.empty.newList #[none, some ⟨9, by decide⟩, some ⟨1, by decide⟩]).2.allocate
    (.list ⟨0⟩)).2

/-- An object that has one list for keys and values finds nothing in it, and one whose values do not
exist cannot have an entry. -/
theorem object_operations_clean_knottedMemory :
    (let outcome := (replace ⟨⟨1, by decide⟩, ⟨1, by decide⟩⟩ "key" .none).run knottedMemory
     outcome.1 = .error (.keyNotFound "key") ∧ knottedMemory.IsKeptIn outcome.2) ∧
    let outcome := (insert ⟨⟨1, by decide⟩, ⟨7, by decide⟩⟩ "key" .none).run knottedMemory
    outcome.1 = .error (.typeMismatch ⟨.list, .none⟩) ∧ knottedMemory.IsKeptIn outcome.2 := by
  have replaced := (object_operations_clean knottedMemory ⟨⟨1, by decide⟩, ⟨1, by decide⟩⟩ "key"
    .none).2.2.2.1
  have inserted := (object_operations_clean knottedMemory ⟨⟨1, by decide⟩, ⟨7, by decide⟩⟩ "key"
    .none).2.2.2.2
  exact ⟨⟨rfl, replaced.2 _ rfl⟩, rfl, inserted.2 _ rfl⟩

end ObjectCells

end ScriptMachine
