/-!
# Tables

A table gives entries to indices.  It extends itself to the greatest index that was set
and reads as unset everywhere else.  What a table holds is `Table.get?`: setting an entry
changes it at one index only.
-/

namespace ScriptMachine

/-- Entries by index, some unset. -/
structure Table (α : Type) where
  entries : Array (Option α)
  deriving DecidableEq

namespace Table

variable {α : Type}

/-- The table without entries. -/
def empty : Table α := ⟨#[]⟩

instance : Inhabited (Table α) := ⟨empty⟩

/-- One more than the greatest index that was set. -/
def size (table : Table α) : Nat := table.entries.size

/-- The entry at an index. -/
def get? (table : Table α) (index : Nat) : Option α := table.entries[index]?.join

/-- The entries with unset ones added until an index is inside. -/
def extended (table : Table α) (index : Nat) : Array (Option α) :=
  if table.size ≤ index then
    table.entries ++ Array.replicate (index + 1 - table.size) none
  else table.entries

/-- Sets the entry at an index. -/
def set (table : Table α) (index : Nat) (entry : α) : Table α :=
  ⟨(table.extended index).setIfInBounds index (some entry)⟩

/-- Sets the entry at an index, and gives back the one that was there. -/
def swapAt (table : Table α) (index : Nat) (entry : α) : Option α × Table α :=
  let slots := table.extended index
  (slots[index]?.join, ⟨slots.setIfInBounds index (some entry)⟩)

/-- Changes the entry at an index that is set. -/
def modify (table : Table α) (index : Nat) (change : α → α) : Table α :=
  match table.get? index with
  | some entry => table.set index (change entry)
  | none => table

/-- The set entries with their indices, in order. -/
def toList (table : Table α) : List (Nat × α) :=
  table.entries.toList.zipIdx.filterMap fun (entry, index) => entry.map (index, ·)

/-! ## Setting and getting -/

@[simp] theorem get?_empty (index : Nat) : (empty : Table α).get? index = none := rfl

@[simp] theorem size_empty : (empty : Table α).size = 0 := rfl

theorem get?_eq_none_of_size_le {table : Table α} {index : Nat} (outside : table.size ≤ index) :
    table.get? index = none := by
  simp only [size] at outside
  simp [get?, Array.getElem?_eq_none outside]

theorem size_extended (table : Table α) (index : Nat) :
    (table.extended index).size = max table.size (index + 1) := by
  by_cases outside : table.size ≤ index
  · rw [extended, if_pos outside, Array.size_append, Array.size_replicate, ← size]
    omega
  · rw [extended, if_neg outside, ← size]
    omega

theorem getElem?_extended (table : Table α) (index other : Nat) :
    (table.extended index)[other]?.join = table.get? other := by
  by_cases outside : table.size ≤ index
  · rw [extended, if_pos outside, get?]
    rcases Nat.lt_or_ge other table.entries.size with inside | beyond
    · rw [Array.getElem?_append_left inside]
    · rw [Array.getElem?_append_right beyond, Array.getElem?_replicate,
        Array.getElem?_eq_none beyond]
      split <;> rfl
  · rw [extended, if_neg outside, get?]

theorem get?_set (table : Table α) (index other : Nat) (entry : α) :
    (table.set index entry).get? other =
      if other = index then some entry else table.get? other := by
  by_cases same : other = index
  · subst same
    have inside : other < (table.extended other).size := by
      rw [size_extended]
      omega
    rw [if_pos rfl, set, get?, Array.getElem?_setIfInBounds_self_of_lt inside, Option.join_some]
  · rw [if_neg same, set, get?, Array.getElem?_setIfInBounds_ne (Ne.symm same),
      getElem?_extended]

@[simp] theorem get?_set_self (table : Table α) (index : Nat) (entry : α) :
    (table.set index entry).get? index = some entry := by
  simp [get?_set]

theorem get?_set_ne {table : Table α} {index other : Nat} {entry : α}
    (different : other ≠ index) :
    (table.set index entry).get? other = table.get? other := by
  simp [get?_set, different]

@[simp] theorem size_set (table : Table α) (index : Nat) (entry : α) :
    (table.set index entry).size = max table.size (index + 1) := by
  rw [set, size, Array.size_setIfInBounds, size_extended]

theorem swapAt_eq (table : Table α) (index : Nat) (entry : α) :
    table.swapAt index entry = (table.get? index, table.set index entry) :=
  Prod.ext (getElem?_extended table index index) rfl

theorem lt_size_of_get? {table : Table α} {index : Nat} {entry : α}
    (found : table.get? index = some entry) : index < table.size := by
  apply Nat.lt_of_not_le
  intro outside
  rw [get?_eq_none_of_size_le outside] at found
  cases found

theorem get?_modify (table : Table α) (index other : Nat) (change : α → α) :
    (table.modify index change).get? other =
      if other = index then (table.get? other).map change else table.get? other := by
  by_cases same : other = index
  · subst same
    rw [if_pos rfl, modify]
    cases unchanged : table.get? other with
    | some entry => exact table.get?_set_self other (change entry)
    | none => exact unchanged
  · rw [if_neg same, modify]
    cases table.get? index with
    | some entry => exact get?_set_ne same
    | none => rfl

@[simp] theorem size_modify (table : Table α) (index : Nat) (change : α → α) :
    (table.modify index change).size = table.size := by
  rw [modify]
  cases found : table.get? index with
  | some entry => exact (table.size_set index _).trans (Nat.max_eq_left (lt_size_of_get? found))
  | none => rfl

end Table

end ScriptMachine
