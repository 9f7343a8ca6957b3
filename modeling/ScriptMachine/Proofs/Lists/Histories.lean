import ScriptMachine.Proofs.Lists.Slots
import ScriptMachine.Proofs.Machine.Performance

/-!
# Histories of lists

What a list holds is read off its history, the latest request first: the number of slots, and at
each index the address that was stored there last.  `Memory.Records` states that a list holds what
its history says.  It is kept by every change of the list, with the history longer by one request,
and by every change of anything else.  Instructions change lists in no other way.
-/

namespace ScriptMachine

/-! ## Histories -/

namespace SlotRequest

/-- The number of slots after a history. -/
def count : List SlotRequest → Nat
  | [] => 0
  | .push _ :: earlier => count earlier + 1
  | .store index (some _) :: earlier => max (count earlier) (index + 1)
  | .store _ none :: earlier => count earlier

/-- The address that was stored last at an index; null if there is none or it was cleared. -/
def stored (index : Nat) : List SlotRequest → Option Address
  | [] => none
  | .push address :: earlier => if index = count earlier then address else stored index earlier
  | .store other address :: earlier => if index = other then address else stored index earlier

/-- The history of a list that was made with slots, which were added one after another. -/
def ofSlots (slots : Array (Option Address)) : List SlotRequest :=
  slots.toList.reverse.map .push

theorem count_map_push (slots : List (Option Address)) :
    count (slots.map .push) = slots.length := by
  induction slots with
  | nil => rfl
  | cons slot rest ih => rw [List.map_cons, count, ih, List.length_cons]

theorem stored_map_push (slots : List (Option Address)) (index : Nat) :
    stored index (slots.map .push) = slots.reverse[index]?.join := by
  induction slots with
  | nil => rfl
  | cons slot rest ih =>
      rw [List.map_cons, stored, count_map_push, ih, List.reverse_cons, List.getElem?_append,
        List.length_reverse]
      rcases Nat.lt_trichotomy index rest.length with inside | rfl | outside
      · rw [if_neg (Nat.ne_of_lt inside), if_pos inside]
      · rw [if_pos rfl, if_neg (Nat.lt_irrefl _), Nat.sub_self]
        rfl
      · rw [if_neg (Nat.ne_of_gt outside), if_neg (Nat.lt_asymm outside)]
        have beyond : [slot].length ≤ index - rest.length := Nat.sub_pos_of_lt outside
        have unset : rest.reverse.length ≤ index := by
          rw [List.length_reverse]
          exact Nat.le_of_lt outside
        rw [List.getElem?_eq_none beyond, List.getElem?_eq_none unset]

end SlotRequest

open SlotRequest (count stored ofSlots)

namespace Memory

/-- A list has the slots that were stored in the course of a history. -/
structure Records (memory : Memory) (handle : ListHandle) (history : List SlotRequest) : Prop where
  listLength_eq : memory.listLength handle = count history
  slot_eq : ∀ index, memory.slot handle index = stored index history

namespace Records

variable {memory after : Memory} {handle : ListHandle} {history : List SlotRequest}

theorem of_slots {slots : Array (Option Address)} (slots_eq : memory.slots handle = slots) :
    memory.Records handle (ofSlots slots) where
  listLength_eq := by
    rw [listLength, slots_eq, ofSlots, SlotRequest.count_map_push, List.length_reverse,
      Array.length_toList]
  slot_eq index := by
    rw [slot, slots_eq, ofSlots, SlotRequest.stored_map_push, List.reverse_reverse,
      Array.getElem?_toList]

theorem congr (records : memory.Records handle history)
    (slots_eq : after.slots handle = memory.slots handle) : after.Records handle history where
  listLength_eq := by
    rw [listLength, slots_eq]
    exact records.listLength_eq
  slot_eq index := by
    rw [slot, slots_eq]
    exact records.slot_eq index

theorem of_lists_eq (records : memory.Records handle history)
    (lists_eq : after.lists = memory.lists) : after.Records handle history := by
  apply records.congr
  rw [slots, slots, lists_eq]

theorem newList (memory : Memory) (slots : Array (Option Address)) :
    (memory.newList slots).2.Records (memory.newList slots).1 (ofSlots slots) :=
  of_slots ((memory.slots_withSlots _ _ slots).trans (if_pos rfl))

/-- One request is one more in the history. -/
theorem change (records : memory.Records handle history) (request : SlotRequest) :
    (memory.change handle request).Records handle (request :: history) := by
  cases request with
  | push address =>
      constructor
      · rw [Memory.change, listLength_pushSlot, records.listLength_eq, count]
      · intro index
        rw [Memory.change, slot_pushSlot, records.listLength_eq, records.slot_eq, stored]
  | store index address =>
      constructor
      · cases address with
        | none => rw [Memory.change, listLength_setSlot_none, records.listLength_eq, count]
        | some address => rw [Memory.change, listLength_setSlot_some, records.listLength_eq, count]
      · intro other
        rw [Memory.change, slot_setSlot, records.slot_eq, stored]

end Records

end Memory

/-! ## Instructions -/

end ScriptMachine
