import ScriptMachine.Memory.Objects

/-!
# Growth of memory

Three ways in which a memory can be ahead of another.  A memory that was *padded* has more
empty cells at its end and is otherwise the same; this is all that reading does.  A memory
that has *grown* may also have new lists, all of them empty, and new cells that hold
nothing but such lists, objects made of new cells, and nothing.  A memory *preserves* another
if it has all its cells and lists as they were, whatever else there is.

What existed before is the same after growth, so that growth is invisible to every program
that has no address or handle of something new.
-/

namespace ScriptMachine

/-- A value that a memory which has not given it out cannot know: nothing, a new list or an
object in new cells. -/
inductive Value.NewTo (memory : Memory) : Value → Prop where
  | none : NewTo memory .none
  | list {handle : ListHandle} (new : memory.lists.size ≤ handle.index) :
      NewTo memory (.list handle)
  | object {cells : ObjectCells} (keys_new : memory.size ≤ cells.keys.index)
      (values_new : memory.size ≤ cells.values.index) : NewTo memory (.object cells)

namespace Memory

/-! ## Reading and writing one cell -/

theorem size_extend (memory : Memory) (address : Address) :
    (memory.extend address).size = max memory.size (address.index + 1) := by
  by_cases outside : memory.size ≤ address.index
  · rw [extend, if_pos outside]
    simp only [size, Array.size_append, Array.size_replicate] at outside ⊢
    omega
  · rw [extend, if_neg outside]
    omega

theorem lists_extend (memory : Memory) (address : Address) :
    (memory.extend address).lists = memory.lists := by
  unfold extend
  split <;> rfl

theorem extend_of_lt {memory : Memory} {address : Address} (inside : address.index < memory.size) :
    memory.extend address = memory :=
  if_neg (Nat.not_le.mpr inside)

theorem lookup_extend (memory : Memory) (address other : Address) :
    (memory.extend address).lookup other = memory.lookup other := by
  by_cases outside : memory.size ≤ address.index
  · rw [extend, if_pos outside]
    rcases Nat.lt_or_ge other.index memory.cells.size with inside | beyond
    · simp only [lookup, Array.getElem?_append_left inside]
    · simp only [lookup, Array.getElem?_append_right beyond, Array.getElem?_replicate,
        Array.getElem?_eq_none beyond]
      split <;> rfl
  · rw [extend, if_neg outside]

theorem lookup_of_size_le {memory : Memory} {address : Address}
    (outside : memory.size ≤ address.index) : memory.lookup address = .none := by
  simp only [size] at outside
  simp [lookup, Array.getElem?_eq_none outside]

theorem lookup_write (memory : Memory) (address other : Address) (value : Value) :
    (memory.write address value).lookup other =
      if other = address then value else memory.lookup other := by
  have inside : address.index < (memory.extend address).cells.size := by
    change address.index < (memory.extend address).size
    rw [size_extend]
    omega
  by_cases same : other = address
  · subst same
    simp [write, lookup, Array.getElem?_setIfInBounds_self_of_lt inside]
  · have different : address.index ≠ other.index := by
      intro index_eq
      apply same
      cases address
      cases other
      simpa using index_eq.symm
    rw [if_neg same, ← lookup_extend memory address other]
    simp [write, lookup, Array.getElem?_setIfInBounds_ne different]

theorem size_write (memory : Memory) (address : Address) (value : Value) :
    (memory.write address value).size = max memory.size (address.index + 1) := by
  rw [← size_extend]
  simp [write, size]

theorem lists_write (memory : Memory) (address : Address) (value : Value) :
    (memory.write address value).lists = memory.lists :=
  lists_extend memory address

theorem lookup_allocate (memory : Memory) (value : Value) (other : Address) :
    (memory.allocate value).2.lookup other =
      if other.index = memory.size then value else memory.lookup other := by
  simp only [allocate, lookup, size, Array.getElem?_push]
  by_cases last : other.index = memory.cells.size <;> simp [last]

@[simp] theorem size_allocate (memory : Memory) (value : Value) :
    (memory.allocate value).2.size = memory.size + 1 := by
  simp [allocate, size]

@[simp] theorem index_allocate (memory : Memory) (value : Value) :
    (memory.allocate value).1.index = memory.size := rfl

theorem lists_allocate (memory : Memory) (value : Value) :
    (memory.allocate value).2.lists = memory.lists := rfl

theorem slots_withSlots (memory : Memory) (handle other : ListHandle)
    (slots : Array (Option Address)) :
    (memory.withSlots handle slots).slots other =
      if other = handle then slots else memory.slots other := by
  have index_eq_iff : other.index = handle.index ↔ other = handle := by
    cases other
    cases handle
    simp
  simp only [withSlots, Memory.slots, Table.get?_set, index_eq_iff]
  split <;> rfl

theorem slots_of_size_le {memory : Memory} {handle : ListHandle}
    (outside : memory.lists.size ≤ handle.index) : memory.slots handle = #[] := by
  rw [slots, Table.get?_eq_none_of_size_le outside, Option.getD_none]

@[simp] theorem size_lists_newList (memory : Memory) (slots : Array (Option Address)) :
    (memory.newList slots).2.lists.size = memory.lists.size + 1 := by
  simp [newList, withSlots]

/-- Storing an address behind the last slot adds a slot. -/
theorem storeSlot_size (slots : Array (Option Address)) (address : Address) :
    storeSlot slots slots.size (some address) = slots.push (some address) := by
  simp only [storeSlot, Option.isSome_some, Nat.le_refl, decide_true, Bool.and_self, if_true,
    Nat.add_sub_cancel_left, Array.replicate_one, Array.append_singleton]
  grind

/-- Slots that lead to cells inside a memory are read without a change of it. -/
theorem readSlots_of_lt {memory : Memory} {slots : List (Option Address)}
    (inside : ∀ address, some address ∈ slots → address.index < memory.size) :
    memory.readSlots slots = (slots.map memory.lookupSlot, memory) := by
  induction slots with
  | nil => rfl
  | cons slot rest ih =>
      have read_rest := ih fun address member => inside address (List.mem_cons_of_mem slot member)
      have extend_eq : memory.extendSlot slot = memory := by
        cases slot with
        | none => rfl
        | some address => exact extend_of_lt (inside address List.mem_cons_self)
      simp only [readSlots, readSlot, extend_eq, read_rest, List.map_cons]

/-- The cell of a list is read, whether or not there is a list in it. -/
theorem run_listAt (memory : Memory) (address : Address) :
    (listAt address).run memory =
      match (memory.lookup address).asList with
      | .ok handle => (.ok handle, memory.extend address)
      | .error mismatch => (.error (.typeMismatch mismatch), memory.extend address) := by
  simp only [listAt, Task.run_bind, Task.run_ofUpdate, read]
  cases (memory.lookup address).asList <;> rfl

/-- The list in a cell is that of the handle in it. -/
theorem fst_run_listAt_eq_ok_iff (memory : Memory) (address : Address) (handle : ListHandle) :
    ((listAt address).run memory).1 = .ok handle ↔ memory.lookup address = .list handle := by
  rw [run_listAt]
  cases memory.lookup address <;> simp [Value.asList]

theorem snd_run_listAt (memory : Memory) (address : Address) :
    ((listAt address).run memory).2 = memory.extend address := by
  rw [run_listAt]
  cases (memory.lookup address).asList <;> rfl

/-! ## Padding -/

/-- The second memory is the first with more empty cells at its end. -/
structure PaddedTo (before after : Memory) : Prop where
  size_le : before.size ≤ after.size
  lookup_eq : ∀ address, after.lookup address = before.lookup address
  lists_eq : after.lists = before.lists

namespace PaddedTo

variable {before middle after : Memory}

theorem refl (memory : Memory) : memory.PaddedTo memory := ⟨Nat.le_refl _, fun _ => rfl, rfl⟩

theorem trans (first : before.PaddedTo middle) (second : middle.PaddedTo after) :
    before.PaddedTo after where
  size_le := Nat.le_trans first.size_le second.size_le
  lookup_eq address := (second.lookup_eq address).trans (first.lookup_eq address)
  lists_eq := second.lists_eq.trans first.lists_eq

theorem slots_eq (padded : before.PaddedTo after) (handle : ListHandle) :
    after.slots handle = before.slots handle := by
  rw [slots, slots, padded.lists_eq]

theorem lookupSlot_eq (padded : before.PaddedTo after) (slot : Option Address) :
    after.lookupSlot slot = before.lookupSlot slot := by
  cases slot with
  | none => rfl
  | some address => exact padded.lookup_eq address

/-- Padding puts empty cells behind the cells that there are. -/
theorem cells_eq (padded : before.PaddedTo after) :
    after.cells = before.cells ++ Array.replicate (after.size - before.size) .none := by
  have getD_eq (index : Nat) :
      after.cells[index]?.getD .none = before.cells[index]?.getD .none := by
    rcases Nat.eq_zero_or_pos index with rfl | positive
    · rw [after.null_cell, before.null_cell]
    · exact padded.lookup_eq ⟨index, positive⟩
  have size_le := padded.size_le
  simp only [size] at size_le ⊢
  apply Array.ext
  · rw [Array.size_append, Array.size_replicate]
    omega
  · intro index inside _
    have same := getD_eq index
    rw [Array.getElem?_eq_getElem inside, Option.getD_some] at same
    rw [same]
    rcases Nat.lt_or_ge index before.cells.size with old | new
    · rw [Array.getElem_append_left old, Array.getElem?_eq_getElem old, Option.getD_some]
    · rw [Array.getElem_append_right new, Array.getElem_replicate, Array.getElem?_eq_none new,
        Option.getD_none]

end PaddedTo

theorem paddedTo_extend (memory : Memory) (address : Address) :
    memory.PaddedTo (memory.extend address) where
  size_le := by
    rw [size_extend]
    exact Nat.le_max_left _ _
  lookup_eq := lookup_extend memory address
  lists_eq := lists_extend memory address

theorem paddedTo_extendSlot (memory : Memory) (slot : Option Address) :
    memory.PaddedTo (memory.extendSlot slot) := by
  cases slot with
  | none => exact PaddedTo.refl memory
  | some address => exact paddedTo_extend memory address

theorem paddedTo_readSlots (memory : Memory) (slots : List (Option Address)) :
    memory.PaddedTo (memory.readSlots slots).2 := by
  induction slots generalizing memory with
  | nil => exact PaddedTo.refl memory
  | cons slot rest ih => exact (paddedTo_extendSlot memory slot).trans (ih _)

/-- Slots lead to the same before and while they are read. -/
theorem fst_readSlots (memory : Memory) (slots : List (Option Address)) :
    (memory.readSlots slots).1 = slots.map memory.lookupSlot := by
  induction slots generalizing memory with
  | nil => rfl
  | cons slot rest ih =>
      have padded := paddedTo_extendSlot memory slot
      simp only [readSlots, readSlot, List.map_cons, ih]
      congr 2
      funext other
      exact padded.lookupSlot_eq other

theorem paddedTo_elements (memory : Memory) (handle : ListHandle) :
    memory.PaddedTo (memory.elements handle).2 :=
  paddedTo_readSlots memory _

theorem paddedTo_indexOf (memory : Memory) (handle : ListHandle) (text : String) :
    memory.PaddedTo (memory.indexOf handle text).2 :=
  paddedTo_elements memory handle

theorem paddedTo_joinSlots (memory : Memory) (slots : List (Option Address)) :
    memory.PaddedTo (memory.joinSlots slots).2 := by
  induction slots generalizing memory with
  | nil => exact PaddedTo.refl memory
  | cons slot rest ih =>
      cases slot with
      | none => exact ih memory
      | some address =>
          have read := paddedTo_extend memory address
          simp only [joinSlots, Memory.read]
          split
          · exact read
          · exact read.trans (ih _)

theorem paddedTo_join (memory : Memory) (handle : ListHandle) :
    memory.PaddedTo (memory.join handle).2 :=
  paddedTo_joinSlots memory _

/-! ## Growth -/

/-- The second memory is the first with new cells and new empty lists. -/
structure GrowsTo (before after : Memory) : Prop where
  size_le : before.size ≤ after.size
  lists_size_le : before.lists.size ≤ after.lists.size
  lookup_eq : ∀ address, address.index < before.size →
    after.lookup address = before.lookup address
  lookup_new : ∀ address, before.size ≤ address.index → (after.lookup address).NewTo before
  slots_eq : ∀ handle, after.slots handle = before.slots handle

end Memory

theorem Value.NewTo.mono {before after : Memory} {value : Value} (new : value.NewTo after)
    (size_le : before.size ≤ after.size) (lists_size_le : before.lists.size ≤ after.lists.size) :
    value.NewTo before := by
  cases new with
  | none => exact .none
  | list new => exact .list (Nat.le_trans lists_size_le new)
  | object keys_new values_new =>
      exact .object (Nat.le_trans size_le keys_new) (Nat.le_trans size_le values_new)

namespace Memory

theorem PaddedTo.growsTo {before after : Memory} (padded : before.PaddedTo after) :
    before.GrowsTo after where
  size_le := padded.size_le
  lists_size_le := Nat.le_of_eq (by rw [padded.lists_eq])
  lookup_eq address _ := padded.lookup_eq address
  lookup_new address outside := by
    rw [padded.lookup_eq, lookup_of_size_le outside]
    exact .none
  slots_eq := padded.slots_eq

namespace GrowsTo

variable {before middle after : Memory}

theorem refl (memory : Memory) : memory.GrowsTo memory := (PaddedTo.refl memory).growsTo

theorem trans (first : before.GrowsTo middle) (second : middle.GrowsTo after) :
    before.GrowsTo after where
  size_le := Nat.le_trans first.size_le second.size_le
  lists_size_le := Nat.le_trans first.lists_size_le second.lists_size_le
  lookup_eq address inside := by
    rw [second.lookup_eq address (Nat.lt_of_lt_of_le inside first.size_le),
      first.lookup_eq address inside]
  lookup_new address outside := by
    rcases Nat.lt_or_ge address.index middle.size with inside | beyond
    · rw [second.lookup_eq address inside]
      exact first.lookup_new address outside
    · exact (second.lookup_new address beyond).mono first.size_le first.lists_size_le
  slots_eq handle := (second.slots_eq handle).trans (first.slots_eq handle)

/-- A new cell for a value that was new at the beginning of the growth. -/
theorem allocate (growth : before.GrowsTo middle) {value : Value} (new : value.NewTo before) :
    before.GrowsTo (middle.allocate value).2 where
  size_le := by
    rw [size_allocate]
    exact Nat.le_succ_of_le growth.size_le
  lists_size_le := growth.lists_size_le
  lookup_eq address inside := by
    rw [lookup_allocate, if_neg (Nat.ne_of_lt (Nat.lt_of_lt_of_le inside growth.size_le))]
    exact growth.lookup_eq address inside
  lookup_new address outside := by
    rw [lookup_allocate]
    split
    · exact new
    · exact growth.lookup_new address outside
  slots_eq := growth.slots_eq

/-- A new list without slots. -/
theorem newList (growth : before.GrowsTo middle) :
    before.GrowsTo (middle.newList #[]).2 where
  size_le := growth.size_le
  lists_size_le := by
    apply Nat.le_trans growth.lists_size_le _
    simp [Memory.newList, withSlots]
  lookup_eq := growth.lookup_eq
  lookup_new := growth.lookup_new
  slots_eq handle := by
    rw [Memory.newList, slots_withSlots]
    split
    · rename_i same
      have unused : middle.slots handle = #[] :=
        slots_of_size_le (Nat.le_of_eq (congrArg ListHandle.index same).symm)
      rw [← growth.slots_eq, unused]
    · exact growth.slots_eq handle

/-- A new cell with a new list. -/
theorem createList (growth : before.GrowsTo middle) :
    before.GrowsTo middle.createList.2 :=
  growth.newList.allocate (.list growth.lists_size_le)

/-- A new cell with a new object, after the cells of its lists. -/
theorem createObject (growth : before.GrowsTo middle) :
    before.GrowsTo middle.createObject.2 := by
  have keys := growth.createList
  apply keys.createList.allocate (.object growth.size_le _)
  exact keys.size_le

end GrowsTo

/-- The cell of a new object holds it. -/
theorem lookup_createObject (memory : Memory) :
    ((memory.createObject).2.lookup memory.createObject.1).NewTo memory := by
  have growth := (GrowsTo.refl memory).createObject
  apply growth.lookup_new _ _
  exact ((GrowsTo.refl memory).createList.createList).size_le

/-! ## Preservation -/

/-- The cells and the lists of a memory are the same in another. -/
structure Preserves (before after : Memory) : Prop where
  size_le : before.size ≤ after.size
  lists_size_le : before.lists.size ≤ after.lists.size
  lookup_eq : ∀ address, address.index < before.size →
    after.lookup address = before.lookup address
  slots_eq : ∀ handle, handle.index < before.lists.size → after.slots handle = before.slots handle

theorem GrowsTo.preserves {before after : Memory} (growth : before.GrowsTo after) :
    before.Preserves after where
  size_le := growth.size_le
  lists_size_le := growth.lists_size_le
  lookup_eq := growth.lookup_eq
  slots_eq handle _ := growth.slots_eq handle

theorem Preserves.trans {before middle after : Memory} (first : before.Preserves middle)
    (second : middle.Preserves after) : before.Preserves after where
  size_le := Nat.le_trans first.size_le second.size_le
  lists_size_le := Nat.le_trans first.lists_size_le second.lists_size_le
  lookup_eq address inside := by
    rw [second.lookup_eq address (Nat.lt_of_lt_of_le inside first.size_le)]
    exact first.lookup_eq address inside
  slots_eq handle existed := by
    rw [second.slots_eq handle (Nat.lt_of_lt_of_le existed first.lists_size_le)]
    exact first.slots_eq handle existed

variable (memory : Memory)

theorem preserves_refl : memory.Preserves memory := (GrowsTo.refl memory).preserves

theorem preserves_allocate (value : Value) : memory.Preserves (memory.allocate value).2 where
  size_le := by
    rw [size_allocate]
    exact Nat.le_succ _
  lists_size_le := Nat.le_refl _
  lookup_eq address inside := by rw [lookup_allocate, if_neg (Nat.ne_of_lt inside)]
  slots_eq _ _ := rfl

theorem preserves_newList (slots : Array (Option Address)) :
    memory.Preserves (memory.newList slots).2 where
  size_le := Nat.le_refl _
  lists_size_le := by
    rw [size_lists_newList]
    exact Nat.le_succ _
  lookup_eq _ _ := rfl
  slots_eq handle existed := by
    have different : handle ≠ ⟨memory.lists.size⟩ := by
      rintro rfl
      exact Nat.lt_irrefl _ existed
    rw [newList, slots_withSlots, if_neg different]

end Memory

end ScriptMachine
