import ScriptMachine.Proofs.Memory.Growth
import ScriptMachine.Proofs.Task.Pairing

/-!
# Corresponding memories

Two memories in which the same is done, but at different addresses and with different handles.  A
`Correspondence` is fixed for all that is done: it pairs each cell with at most one cell of the
other memory, also cells that are not there yet, and says from where on lists are new.  Values
correspond if they are the same, or objects in corresponding cells, or new lists.

A program that does not set slots never sees a list that has any, so that new lists are lists
without slots, and it does not matter which of them are paired.
-/

namespace ScriptMachine

/-- Pairs of cells of two memories, and the numbers of lists that are not new to them. -/
structure Correspondence where
  cells : Address → Address → Prop
  injective : ∀ {left right otherLeft otherRight : Address}, cells left right →
    cells otherLeft otherRight → (left = otherLeft ↔ right = otherRight)
  leftLists : Nat
  rightLists : Nat

/-- Both lists are new. -/
def Correspondence.lists (correspondence : Correspondence) (left right : ListHandle) : Prop :=
  correspondence.leftLists ≤ left.index ∧ correspondence.rightLists ≤ right.index

/-! ## Values -/

/-- The same but for addresses and handles. -/
inductive Value.Corresponds (correspondence : Correspondence) : Value → Value → Prop where
  | same {value : Value} (not_list : ∀ handle, value ≠ .list handle)
      (not_object : ∀ cells, value ≠ .object cells) : Corresponds correspondence value value
  | list {left right : ListHandle} (new : correspondence.lists left right) :
      Corresponds correspondence (.list left) (.list right)
  | object {left right : ObjectCells} (keys : correspondence.cells left.keys right.keys)
      (values : correspondence.cells left.values right.values) :
      Corresponds correspondence (.object left) (.object right)

/-- A function of values that does not tell lists from lists or objects from objects. -/
structure Value.Indistinct {α : Type} (observe : Value → α) : Prop where
  list : ∀ left right, observe (.list left) = observe (.list right)
  object : ∀ left right, observe (.object left) = observe (.object right)

namespace Value

variable {correspondence : Correspondence} {left right : Value}

theorem corresponds_none : Corresponds correspondence .none .none := .same nofun nofun

theorem corresponds_number (number : Binary64) :
    Corresponds correspondence (.number number) (.number number) := .same nofun nofun

theorem corresponds_ofLiteral (literal : Literal) :
    Corresponds correspondence (.ofLiteral literal) (.ofLiteral literal) := by
  cases literal <;> exact .same nofun nofun

theorem Corresponds.observe_eq {α : Type} {observe : Value → α}
    (corresponds : left.Corresponds correspondence right) (indistinct : Indistinct observe) :
    observe left = observe right := by
  cases corresponds with
  | same => rfl
  | list => exact indistinct.list _ _
  | object => exact indistinct.object _ _

theorem indistinct_kind : Indistinct kind := ⟨fun _ _ => rfl, fun _ _ => rfl⟩

theorem indistinct_toInteger : Indistinct toInteger := ⟨fun _ _ => rfl, fun _ _ => rfl⟩

theorem indistinct_toLong : Indistinct toLong := ⟨fun _ _ => rfl, fun _ _ => rfl⟩

theorem indistinct_toDouble : Indistinct toDouble := ⟨fun _ _ => rfl, fun _ _ => rfl⟩

theorem indistinct_toText : Indistinct toText := ⟨fun _ _ => rfl, fun _ _ => rfl⟩

end Value

/-! ## Memories -/

namespace Memory

/-- Corresponding cells hold corresponding values, and new lists have no slots. -/
structure Agrees (correspondence : Correspondence) (left right : Memory) : Prop where
  lookup : ∀ {address other : Address}, correspondence.cells address other →
    (left.lookup address).Corresponds correspondence (right.lookup other)
  left_empty : ∀ handle, correspondence.leftLists ≤ handle.index → left.slots handle = #[]
  right_empty : ∀ handle, correspondence.rightLists ≤ handle.index → right.slots handle = #[]

/-- Moreover all cells and lists that will be added correspond. -/
structure Corresponds (correspondence : Correspondence) (left right : Memory) : Prop
    extends left.Agrees correspondence right where
  supply : ∀ (address other : Address) (distance : Nat), address.index = left.size + distance →
    other.index = right.size + distance → correspondence.cells address other
  leftLists_le : correspondence.leftLists ≤ left.lists.size
  rightLists_le : correspondence.rightLists ≤ right.lists.size

variable {correspondence : Correspondence} {left right : Memory} {address other : Address}
  {value otherValue : Value}

/-! ### New cells -/

theorem Agrees.allocate (agrees : left.Agrees correspondence right)
    (values : value.Corresponds correspondence otherValue)
    (cells : correspondence.cells (left.allocate value).1 (right.allocate otherValue).1) :
    (left.allocate value).2.Agrees correspondence (right.allocate otherValue).2 where
  lookup {address other} paired := by
    have last_iff : address.index = left.size ↔ other.index = right.size := by
      have injective := correspondence.injective paired cells
      cases address
      cases other
      simpa [Memory.allocate] using injective
    rw [lookup_allocate, lookup_allocate]
    by_cases last : address.index = left.size
    · rw [if_pos last, if_pos (last_iff.mp last)]
      exact values
    · rw [if_neg last, if_neg (last ∘ last_iff.mpr)]
      exact agrees.lookup paired
  left_empty := agrees.left_empty
  right_empty := agrees.right_empty

/-- Cells that are not paired hold any values. -/
theorem Agrees.allocate_unpaired (agrees : left.Agrees correspondence right)
    (left_unpaired : ∀ other, ¬ correspondence.cells (left.allocate value).1 other)
    (right_unpaired : ∀ address, ¬ correspondence.cells address (right.allocate otherValue).1) :
    (left.allocate value).2.Agrees correspondence (right.allocate otherValue).2 where
  lookup {address other} paired := by
    have not_left : address.index ≠ left.size := by
      rintro last
      cases address
      cases last
      exact left_unpaired other paired
    have not_right : other.index ≠ right.size := by
      rintro last
      cases other
      cases last
      exact right_unpaired address paired
    rw [lookup_allocate, lookup_allocate, if_neg not_left, if_neg not_right]
    exact agrees.lookup paired
  left_empty := agrees.left_empty
  right_empty := agrees.right_empty

namespace Corresponds

theorem cells_allocate (corresponds : left.Corresponds correspondence right)
    (value otherValue : Value) :
    correspondence.cells (left.allocate value).1 (right.allocate otherValue).1 :=
  corresponds.supply _ _ 0 rfl rfl

theorem allocate (corresponds : left.Corresponds correspondence right)
    (values : value.Corresponds correspondence otherValue) :
    (left.allocate value).2.Corresponds correspondence (right.allocate otherValue).2 where
  toAgrees := corresponds.toAgrees.allocate values (corresponds.cells_allocate value otherValue)
  supply address other distance index_eq other_eq := by
    rw [size_allocate] at index_eq other_eq
    apply corresponds.supply address other (distance + 1)
    · rw [index_eq, Nat.add_assoc, Nat.add_comm 1]
    · rw [other_eq, Nat.add_assoc, Nat.add_comm 1]
  leftLists_le := corresponds.leftLists_le
  rightLists_le := corresponds.rightLists_le

/-! ### Cells that may be there -/

/-- Two cells that are paired are both there, or at the same distance from the end. -/
theorem inside_or_distance (corresponds : left.Corresponds correspondence right)
    (paired : correspondence.cells address other) :
    address.index < left.size ∧ other.index < right.size ∨
      ∃ distance, address.index = left.size + distance ∧ other.index = right.size + distance := by
  have index_congr {first second : Address} (same : first = second) : first.index = second.index :=
    congrArg Address.index same
  by_cases inside : address.index < left.size
  · by_cases otherInside : other.index < right.size
    · exact .inl ⟨inside, otherInside⟩
    · have beyond : 0 < left.size + (other.index - right.size) :=
        Nat.lt_of_lt_of_le left.size_pos (Nat.le_add_right _ _)
      have supplied := corresponds.supply ⟨_, beyond⟩ other _ rfl (by omega)
      have same := index_congr ((correspondence.injective paired supplied).mpr rfl)
      exact .inr ⟨_, same, by omega⟩
  · have beyond : 0 < right.size + (address.index - left.size) :=
      Nat.lt_of_lt_of_le right.size_pos (Nat.le_add_right _ _)
    have supplied := corresponds.supply address ⟨_, beyond⟩ _ (by omega) rfl
    have same := index_congr ((correspondence.injective paired supplied).mp rfl)
    exact .inr ⟨_, by omega, same⟩

/-- The supply after cells up to paired ones have been added. -/
theorem supply_of_size_eq (corresponds : left.Corresponds correspondence right)
    (paired : correspondence.cells address other) {leftSize rightSize : Nat}
    (left_eq : leftSize = max left.size (address.index + 1))
    (right_eq : rightSize = max right.size (other.index + 1)) (new otherNew : Address)
    (distance : Nat) (new_eq : new.index = leftSize + distance)
    (otherNew_eq : otherNew.index = rightSize + distance) : correspondence.cells new otherNew := by
  rcases corresponds.inside_or_distance paired with ⟨inside, otherInside⟩ |
    ⟨gap, address_eq, other_eq⟩
  · exact corresponds.supply new otherNew distance (by omega) (by omega)
  · exact corresponds.supply new otherNew (gap + 1 + distance) (by omega) (by omega)

theorem extend (corresponds : left.Corresponds correspondence right)
    (paired : correspondence.cells address other) :
    (left.extend address).Corresponds correspondence (right.extend other) where
  lookup paired := by
    rw [lookup_extend, lookup_extend]
    exact corresponds.lookup paired
  left_empty handle new := by
    rw [(paddedTo_extend left address).slots_eq]
    exact corresponds.left_empty handle new
  right_empty handle new := by
    rw [(paddedTo_extend right other).slots_eq]
    exact corresponds.right_empty handle new
  supply := corresponds.supply_of_size_eq paired (left.size_extend address)
    (right.size_extend other)
  leftLists_le := by
    rw [lists_extend]
    exact corresponds.leftLists_le
  rightLists_le := by
    rw [lists_extend]
    exact corresponds.rightLists_le

theorem write (corresponds : left.Corresponds correspondence right)
    (paired : correspondence.cells address other)
    (values : value.Corresponds correspondence otherValue) :
    (left.write address value).Corresponds correspondence (right.write other otherValue) where
  lookup {first second} firstPaired := by
    have same_iff := correspondence.injective firstPaired paired
    rw [lookup_write, lookup_write]
    by_cases same : first = address
    · rw [if_pos same, if_pos (same_iff.mp same)]
      exact values
    · rw [if_neg same, if_neg (same ∘ same_iff.mpr)]
      exact corresponds.lookup firstPaired
  left_empty handle new := by
    rw [slots, lists_write]
    exact corresponds.left_empty handle new
  right_empty handle new := by
    rw [slots, lists_write]
    exact corresponds.right_empty handle new
  supply := corresponds.supply_of_size_eq paired (left.size_write address value)
    (right.size_write other otherValue)
  leftLists_le := by
    rw [lists_write]
    exact corresponds.leftLists_le
  rightLists_le := by
    rw [lists_write]
    exact corresponds.rightLists_le

/-! ### New lists and objects -/

theorem newList (corresponds : left.Corresponds correspondence right) :
    (left.newList #[]).2.Corresponds correspondence (right.newList #[]).2 := by
  have stays_empty {memory : Memory} {handle : ListHandle} (empty : memory.slots handle = #[]) :
      (memory.newList #[]).2.slots handle = #[] := by
    rw [Memory.newList, slots_withSlots]
    split
    · rfl
    · exact empty
  constructor
  · exact ⟨corresponds.lookup, fun handle new => stays_empty (corresponds.left_empty handle new),
      fun handle new => stays_empty (corresponds.right_empty handle new)⟩
  · exact corresponds.supply
  · rw [size_lists_newList]
    exact Nat.le_succ_of_le corresponds.leftLists_le
  · rw [size_lists_newList]
    exact Nat.le_succ_of_le corresponds.rightLists_le

theorem list_newList (corresponds : left.Corresponds correspondence right) :
    (Value.list (left.newList #[]).1).Corresponds correspondence
      (.list (right.newList #[]).1) :=
  .list ⟨corresponds.leftLists_le, corresponds.rightLists_le⟩

theorem createList (corresponds : left.Corresponds correspondence right) :
    correspondence.cells left.createList.1 right.createList.1 ∧
      left.createList.2.Corresponds correspondence right.createList.2 :=
  ⟨corresponds.newList.cells_allocate _ _, corresponds.newList.allocate corresponds.list_newList⟩

theorem createObject (corresponds : left.Corresponds correspondence right) :
    correspondence.cells left.createObject.1 right.createObject.1 ∧
      left.createObject.2.Corresponds correspondence right.createObject.2 := by
  obtain ⟨keys, afterKeys⟩ := corresponds.createList
  obtain ⟨values, afterValues⟩ := afterKeys.createList
  exact ⟨afterValues.cells_allocate _ _, afterValues.allocate (.object keys values)⟩

/-! ### Reading and writing -/

variable {slot otherSlot : Option Address} {handle otherHandle : ListHandle}

theorem readSlot (corresponds : left.Corresponds correspondence right)
    (slots : Option.Rel correspondence.cells slot otherSlot) :
    (left.readSlot slot).1.Corresponds correspondence (right.readSlot otherSlot).1 ∧
      (left.readSlot slot).2.Corresponds correspondence (right.readSlot otherSlot).2 := by
  cases slots with
  | none => exact ⟨Value.corresponds_none, corresponds⟩
  | some paired => exact ⟨corresponds.lookup paired, corresponds.extend paired⟩

theorem writeSlot (corresponds : left.Corresponds correspondence right)
    (slots : Option.Rel correspondence.cells slot otherSlot)
    (values : value.Corresponds correspondence otherValue) :
    (left.writeSlot slot value).Corresponds correspondence
      (right.writeSlot otherSlot otherValue) := by
  cases slots with
  | none => exact corresponds
  | some paired => exact corresponds.write paired values

end Corresponds

/-! ### New lists have no elements -/

theorem Agrees.slots_eq (agrees : left.Agrees correspondence right)
    {handle otherHandle : ListHandle} (new : correspondence.lists handle otherHandle) :
    left.slots handle = #[] ∧ right.slots otherHandle = #[] :=
  ⟨agrees.left_empty handle new.1, agrees.right_empty otherHandle new.2⟩

section Empty

variable {memory : Memory} {handle : ListHandle} (empty : memory.slots handle = #[])
include empty

theorem listLength_of_empty : memory.listLength handle = 0 := by
  rw [listLength, empty]
  rfl

theorem indexOf_of_empty (text : String) : memory.indexOf handle text = (none, memory) := by
  rw [indexOf, elements, empty]
  rfl

theorem join_of_empty : memory.join handle = (.ok "", memory) := by
  rw [join, empty]
  rfl

end Empty

/-! ### Tasks -/

variable {handle otherHandle : ListHandle}

theorem alike_readSlot {slot otherSlot : Option Address}
    (slots : Option.Rel correspondence.cells slot otherSlot) :
    Task.Alike (Corresponds correspondence) (Value.Corresponds correspondence)
      (Task.ofUpdate (·.readSlot slot)) (Task.ofUpdate (·.readSlot otherSlot)) :=
  Task.alike_ofUpdate fun _ _ corresponds => corresponds.readSlot slots

theorem alike_read (paired : correspondence.cells address other) :
    Task.Alike (Corresponds correspondence) (Value.Corresponds correspondence)
      (Task.ofUpdate (·.read address)) (Task.ofUpdate (·.read other)) :=
  alike_readSlot (.some paired)

theorem alike_asList (values : value.Corresponds correspondence otherValue) {σ τ : Type}
    {states : σ → τ → Prop} :
    Task.Alike states correspondence.lists (Task.ofConversion value.asList)
      (Task.ofConversion otherValue.asList) := by
  cases values with
  | list new => exact Task.alike_pure new
  | object => exact Task.alike_throw _
  | same not_list =>
      cases value with
      | list handle => exact absurd rfl (not_list handle)
      | _ => exact Task.alike_throw _

theorem alike_listAt (paired : correspondence.cells address other) :
    Task.Alike (Corresponds correspondence) correspondence.lists (listAt address) (listAt other) :=
  (alike_read paired).bind fun _ _ values => alike_asList values

theorem alike_indexOf (new : correspondence.lists handle otherHandle) (text : String) :
    Task.Alike (Corresponds correspondence) Eq (Task.ofUpdate (·.indexOf handle text))
      (Task.ofUpdate (·.indexOf otherHandle text)) := by
  apply Task.alike_ofUpdate
  intro left right corresponds
  obtain ⟨empty, otherEmpty⟩ := corresponds.slots_eq new
  rw [indexOf_of_empty empty, indexOf_of_empty otherEmpty]
  exact ⟨rfl, corresponds⟩

theorem alike_join (new : correspondence.lists handle otherHandle) :
    Task.Alike (Corresponds correspondence) Eq (Task.ofAttempt (·.join handle))
      (Task.ofAttempt (·.join otherHandle)) := by
  have joins : Task.Alike (Corresponds correspondence) Eq (Task.ofUpdate (·.join handle))
      (Task.ofUpdate (·.join otherHandle)) := by
    apply Task.alike_ofUpdate
    intro left right corresponds
    obtain ⟨empty, otherEmpty⟩ := corresponds.slots_eq new
    rw [join_of_empty empty, join_of_empty otherEmpty]
    exact ⟨rfl, corresponds⟩
  apply joins.bind
  rintro conversion _ rfl
  exact Task.alike_ofConversion conversion

theorem alike_length {object otherObject : ObjectCells}
    (keys : correspondence.cells object.keys otherObject.keys) :
    Task.Alike (Corresponds correspondence) Eq object.length otherObject.length := by
  apply (alike_listAt keys).bind
  intro handle otherHandle new
  apply Task.alike_get.bind
  intro left right corresponds
  obtain ⟨empty, otherEmpty⟩ := corresponds.slots_eq new
  rw [listLength_of_empty empty, listLength_of_empty otherEmpty]
  exact Task.alike_pure rfl

end Memory

end ScriptMachine
