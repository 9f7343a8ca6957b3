import ScriptMachine.Proofs.Memory.Growth

/-!
# Slots of lists

A list grows at its end, and where an address is stored past it.  What it holds is `Memory.slot`,
which reads as null from the length on, so that neither growing nor clearing a slot that is not
there is seen in it.  Adding and storing change the slot at one index of one list.
-/

namespace ScriptMachine

/-- What can be done to the slots of a list. -/
inductive SlotRequest where
  | push (address : Option Address)
  | store (index : Nat) (address : Option Address)

namespace Memory

/-! ## Stored slots -/

/-- Addresses are stored as in a table. -/
theorem storeSlot_some (slots : Array (Option Address)) (index : Nat) (address : Address) :
    storeSlot slots index (some address) =
      ((⟨slots⟩ : Table Address).set index address).entries := by
  by_cases outside : slots.size ≤ index <;>
    simp [storeSlot, Table.set, Table.extended, Table.size, outside]

theorem size_storeSlot_some (slots : Array (Option Address)) (index : Nat) (address : Address) :
    (storeSlot slots index (some address)).size = max slots.size (index + 1) := by
  rw [storeSlot_some]
  exact Table.size_set _ _ _

theorem size_storeSlot_none (slots : Array (Option Address)) (index : Nat) :
    (storeSlot slots index none).size = slots.size :=
  Array.size_setIfInBounds

theorem getElem?_storeSlot (slots : Array (Option Address)) (index other : Nat)
    (address : Option Address) :
    (storeSlot slots index address)[other]?.join =
      if other = index then address else slots[other]?.join := by
  cases address with
  | some address =>
      rw [storeSlot_some]
      exact Table.get?_set ⟨slots⟩ index other address
  | none =>
      change (slots.setIfInBounds index none)[other]?.join = _
      by_cases same : other = index
      · rw [same, if_pos rfl, Array.getElem?_setIfInBounds, if_pos rfl, apply_ite Option.join]
        exact ite_self none
      · rw [if_neg same, Array.getElem?_setIfInBounds_ne (Ne.symm same)]

/-! ## Changed lists -/

/-- The memory with a change of the slots of a list. -/
def change (memory : Memory) (handle : ListHandle) : SlotRequest → Memory
  | .push address => memory.pushSlot handle address
  | .store index address => memory.setSlot handle index address

variable (memory : Memory) (handle : ListHandle)

theorem slot_setSlot (index other : Nat) (address : Option Address) :
    (memory.setSlot handle index address).slot handle other =
      if other = index then address else memory.slot handle other := by
  rw [slot, setSlot, slots_withSlots, if_pos rfl]
  exact getElem?_storeSlot _ index other address

/-- A slot that is set holds what was stored, also when it lies past the end. -/
theorem slot_setSlot_self (index : Nat) (address : Option Address) :
    (memory.setSlot handle index address).slot handle index = address := by
  rw [slot_setSlot, if_pos rfl]

theorem listLength_setSlot_some (index : Nat) (address : Address) :
    (memory.setSlot handle index (some address)).listLength handle =
      max (memory.listLength handle) (index + 1) := by
  rw [listLength, setSlot, slots_withSlots, if_pos rfl]
  exact size_storeSlot_some _ index address

theorem listLength_setSlot_none (index : Nat) :
    (memory.setSlot handle index none).listLength handle = memory.listLength handle := by
  rw [listLength, setSlot, slots_withSlots, if_pos rfl]
  exact size_storeSlot_none _ index

theorem slot_pushSlot (other : Nat) (address : Option Address) :
    (memory.pushSlot handle address).slot handle other =
      if other = memory.listLength handle then address else memory.slot handle other := by
  rw [slot, pushSlot, slots_withSlots, if_pos rfl, Array.getElem?_push, ← listLength]
  split
  · rfl
  · rfl

theorem listLength_pushSlot (address : Option Address) :
    (memory.pushSlot handle address).listLength handle = memory.listLength handle + 1 := by
  rw [listLength, pushSlot, slots_withSlots, if_pos rfl]
  exact Array.size_push address

/-- Only the slots of the list itself change. -/
theorem slots_change_of_ne {other : ListHandle} (different : other ≠ handle)
    (request : SlotRequest) : (memory.change handle request).slots other = memory.slots other := by
  cases request with
  | push address => rw [change, pushSlot, slots_withSlots, if_neg different]
  | store index address => rw [change, setSlot, slots_withSlots, if_neg different]

theorem lookup_change (request : SlotRequest) (address : Address) :
    (memory.change handle request).lookup address = memory.lookup address := by
  cases request <;> rfl

theorem size_lists_change {memory : Memory} {handle : ListHandle}
    (known : handle.index < memory.lists.size) (request : SlotRequest) :
    (memory.change handle request).lists.size = memory.lists.size := by
  have size_eq := Nat.max_eq_left (Nat.succ_le_of_lt known)
  cases request with
  | push address => rw [change, pushSlot, withSlots, Table.size_set, size_eq]
  | store index address => rw [change, setSlot, withSlots, Table.size_set, size_eq]

end Memory

end ScriptMachine
