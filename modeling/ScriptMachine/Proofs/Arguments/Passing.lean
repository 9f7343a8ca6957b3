import ScriptMachine.Proofs.Machine.Addresses
import ScriptMachine.Proofs.Machine.Overwriting

/-!
# Passing arguments

The arguments of an execution are put into new cells, the addresses of these into a new list, the
list into one more cell, and its address into register zero.  A function of the host that is called
gets what the slots of the list lead to.  A program makes a pointer from the register, asks the list
for the address of an element and makes a pointer from that.  As long as nothing on the way is
overwritten, both find the values that were passed, however many there are and whatever is linked,
called and added to memory in the meantime.
-/

namespace ScriptMachine

/-! ## Cells of arguments -/

/-- Where arguments are: the cell of their list, the list, and the cells of its elements. -/
structure ArgumentCells where
  list : Address
  handle : ListHandle
  elements : List Address

namespace ArgumentCells

variable (cells : ArgumentCells)

/-- Register zero leads to the arguments. -/
structure Hold (values : List Value) (shared : SharedState) : Prop where
  register_eq : Address.ofRaw? (shared.registers.get 0) = some cells.list
  list_eq : shared.memory.lookup cells.list = .list cells.handle
  slots_eq : shared.memory.slots cells.handle = (cells.elements.map some).toArray
  values_eq : cells.elements.map shared.memory.lookup = values

/-- The addresses are numbers, and the indices of the elements 32-bit integers. -/
structure Indexable : Prop where
  index_le : ∀ address ∈ cells.list :: cells.elements, address.index ≤ Binary64.exactBound
  length_le : cells.elements.length ≤ Operand.lastIndex

/-- The cells of the elements are next to each other, and that of their list is behind them. -/
structure Adjacent (first : Nat) : Prop where
  elements_eq : cells.elements.map Address.index = List.range' first cells.elements.length
  list_eq : cells.list.index = first + cells.elements.length

/-- All places on the way to the arguments. -/
def places : List Place :=
  .register 0 :: .cell cells.list :: .list cells.handle :: cells.elements.map .cell

variable {cells} {values : List Value}

theorem isShared_of_mem_places {place : Place} (member : place ∈ cells.places) :
    place.IsShared := by
  simp only [places, List.mem_cons, List.mem_map] at member
  rcases member with rfl | rfl | rfl | ⟨element, -, rfl⟩ <;> trivial

/-- Arguments are held as long as their places are kept. -/
theorem Hold.of_keptIn {before after : Context} (held : cells.Hold values before.shared)
    (kept : ∀ place ∈ cells.places, place.KeptIn before after) :
    cells.Hold values after.shared := by
  rw [places, List.forall_mem_cons, List.forall_mem_cons, List.forall_mem_cons] at kept
  rcases kept with ⟨register_kept, list_kept, slots_kept, elements_kept⟩
  constructor
  · rw [register_kept.2]
    exact held.register_eq
  · exact Eq.trans list_kept.2 held.list_eq
  · exact Eq.trans slots_kept.2 held.slots_eq
  · rw [← held.values_eq]
    apply List.map_congr_left
    intro element member
    exact (elements_kept _ (List.mem_map_of_mem member)).2

theorem Hold.of_paddedTo {before after : Context} (held : cells.Hold values before.shared)
    (padded : before.PaddedTo after) : cells.Hold values after.shared := by
  have lookup_eq := funext padded.memory.lookup_eq
  constructor
  · rw [padded.growsTo.registers_eq]
    exact held.register_eq
  · rw [lookup_eq]
    exact held.list_eq
  · rw [padded.memory.slots_eq]
    exact held.slots_eq
  · rw [lookup_eq]
    exact held.values_eq

theorem Hold.length_eq {shared : SharedState} (held : cells.Hold values shared) :
    cells.elements.length = values.length := by
  rw [← held.values_eq, List.length_map]

/-- The slots lead to the cells of the elements, and there is none behind the last. -/
theorem Hold.slot_eq {shared : SharedState} (held : cells.Hold values shared) (index : Nat) :
    shared.memory.slot cells.handle index = cells.elements[index]? := by
  rw [Memory.slot, held.slots_eq, List.getElem?_toArray, List.getElem?_map]
  cases cells.elements[index]? <;> rfl

/-! ### Adjacent cells -/

variable {first : Nat}

theorem Adjacent.index_of_mem (adjacent : cells.Adjacent first) {element : Address}
    (member : element ∈ cells.elements) :
    first ≤ element.index ∧ element.index < cells.list.index := by
  have inside := List.mem_map_of_mem (f := Address.index) member
  rw [adjacent.elements_eq, List.mem_range'_1, ← adjacent.list_eq] at inside
  exact inside

/-- All cells are between the first and that of the list. -/
theorem Adjacent.index_between (adjacent : cells.Adjacent first) {address : Address}
    (member : address ∈ cells.list :: cells.elements) :
    first ≤ address.index ∧ address.index ≤ cells.list.index := by
  have list_eq := adjacent.list_eq
  rcases List.mem_cons.mp member with rfl | member
  · omega
  · have inside := adjacent.index_of_mem member
    omega

theorem Adjacent.nodup (adjacent : cells.Adjacent first) : cells.elements.Nodup := by
  have distinct : (cells.elements.map Address.index).Nodup := by
    rw [adjacent.elements_eq]
    exact List.nodup_range'
  exact List.Pairwise.of_map Address.index (fun _ _ ne eq => ne (congrArg _ eq)) distinct

theorem Adjacent.list_not_mem (adjacent : cells.Adjacent first) : cells.list ∉ cells.elements := by
  intro member
  exact Nat.lt_irrefl _ (adjacent.index_of_mem member).2

/-- Addresses before the first cell are apart from all cells. -/
theorem Adjacent.apart (adjacent : cells.Adjacent first) {address : Address}
    (before : address.index < first) : address ≠ cells.list ∧ address ∉ cells.elements := by
  rw [← not_or, ← List.mem_cons]
  intro member
  exact Nat.lt_irrefl _ (Nat.lt_of_lt_of_le before (adjacent.index_between member).1)

/-- Up to the cell of the list there are all the cells. -/
theorem Adjacent.existsIn {context : Context} (adjacent : cells.Adjacent first)
    (cells_lt : cells.list.index < context.shared.memory.size)
    (list_lt : cells.handle.index < context.shared.memory.lists.size) {place : Place}
    (member : place ∈ cells.places) : place.ExistsIn context := by
  simp only [places, List.mem_cons, List.mem_map] at member
  rcases member with rfl | rfl | rfl | ⟨element, member, rfl⟩
  · trivial
  · exact cells_lt
  · exact list_lt
  · exact Nat.lt_trans (adjacent.index_of_mem member).2 cells_lt

end ArgumentCells

/-! ## Linking -/

namespace Memory

/-- New cells are next to each other. -/
theorem map_index_allocateAll (memory : Memory) (values : List Value) :
    (memory.allocateAll values).1.map Address.index = List.range' memory.size values.length := by
  induction values generalizing memory with
  | nil => rfl
  | cons value rest ih =>
      have rest_eq := ih (memory.allocate value).2
      rw [size_allocate] at rest_eq
      rw [List.length_cons, List.range'_succ, ← rest_eq]
      rfl

/-- New cells hold the values in their order. -/
theorem map_lookup_allocateAll (memory : Memory) (values : List Value) :
    (memory.allocateAll values).1.map (memory.allocateAll values).2.lookup = values := by
  induction values generalizing memory with
  | nil => rfl
  | cons value rest ih =>
      have first : ((memory.allocate value).2.allocateAll rest).2.lookup
          (memory.allocate value).1 = value := by
        have preserves := preserves_allocateAll (memory.allocate value).2 rest
        rw [preserves.lookup_eq, lookup_allocate, if_pos (index_allocate memory value)]
        rw [size_allocate]
        exact Nat.lt_succ_self _
      exact congr (congrArg List.cons first) (ih _)

end Memory

theorem Address.ofRaw?_toRaw {address : Address} (small : address.index ≤ Binary64.exactBound) :
    ofRaw? address.toRaw = some address := by
  have high_le : (Binary64.exactBound : Int) ≤ Int64.maxValue.toInt := by decide
  have index_eq : min (address.index : Int) Int64.maxValue.toInt = address.index := by omega
  apply ofRaw?_eq
  rw [toRaw, index_eq, code]
  apply Int64.toInt_ofInt_of_le
  · exact Int.le_trans (by decide) (Int.natCast_nonneg address.index)
  · exact Int.lt_of_le_of_lt (Int.ofNat_le.mpr small) (by decide)

/-- The greatest number of cells for which all indices of lists of them are 32-bit integers. -/
def indexableCells : Nat := 1 <<< 31

theorem indexableCells_eq : indexableCells = Operand.lastIndex + 1 := by decide

theorem indexableCells_le_exactBound : indexableCells ≤ Binary64.exactBound := by decide

/-- Adjacent cells that memory has room for can be indexed. -/
theorem ArgumentCells.Adjacent.indexable {cells : ArgumentCells} {first : Nat}
    (adjacent : cells.Adjacent first) (small : cells.list.index < indexableCells) :
    cells.Indexable := by
  have list_eq := adjacent.list_eq
  have last_eq := indexableCells_eq
  have exact_le := indexableCells_le_exactBound
  constructor
  · intro address member
    have inside := adjacent.index_between member
    omega
  · omega

/-- Arguments are passed in adjacent cells at the end of memory. -/
theorem SharedState.exists_cells_of_passArguments (shared : SharedState) (values : List Value)
    (small : (shared.passArguments values).memory.size ≤ indexableCells) :
    ∃ cells : ArgumentCells, cells.Hold values (shared.passArguments values) ∧
      cells.Adjacent shared.memory.size ∧
      (shared.passArguments values).memory.size = cells.list.index + 1 ∧
      cells.handle.index < (shared.passArguments values).memory.lists.size := by
  have allocated_size := shared.memory.size_allocateAll values
  have indices_eq := shared.memory.map_index_allocateAll values
  have values_eq := shared.memory.map_lookup_allocateAll values
  have size_eq := shared.size_passArguments values
  have passed_eq : shared.passArguments values =
      { shared with
        memory := (((shared.memory.allocateAll values).2.newList
          ((shared.memory.allocateAll values).1.map some).toArray).2.allocate
            (.list ⟨(shared.memory.allocateAll values).2.lists.size⟩)).2
        registers := shared.registers.set 0
          (Address.toRaw ⟨(shared.memory.allocateAll values).2.size, Memory.size_pos _⟩) } := rfl
  rw [size_eq, ← Nat.add_assoc, ← allocated_size] at small ⊢
  rw [passed_eq]
  generalize shared.memory.allocateAll values = result at *
  rcases result with ⟨elements, allocated⟩
  dsimp only at allocated_size indices_eq values_eq small ⊢
  have length_eq : elements.length = values.length := by
    rw [← values_eq, List.length_map]
  rw [← length_eq] at allocated_size indices_eq
  refine ⟨⟨⟨allocated.size, allocated.size_pos⟩, ⟨allocated.lists.size⟩, elements⟩,
    ⟨?_, ?_, ?_, ?_⟩, ⟨indices_eq, allocated_size⟩, rfl, ?_⟩
  · rw [Registers.get_set, if_pos rfl]
    apply Address.ofRaw?_toRaw
    exact Nat.le_trans (Nat.le_of_succ_le small) indexableCells_le_exactBound
  · exact (Memory.lookup_allocate _ _ _).trans (if_pos rfl)
  · exact (Memory.slots_withSlots _ _ _ _).trans (if_pos rfl)
  · apply Eq.trans _ values_eq
    apply List.map_congr_left
    intro element member
    have inside := List.mem_map_of_mem (f := Address.index) member
    rw [indices_eq, List.mem_range'_1, ← allocated_size] at inside
    exact (Memory.lookup_allocate _ _ _).trans (if_neg (Nat.ne_of_lt inside.2))
  · exact Nat.lt_of_lt_of_eq (Nat.lt_succ_self _) (Memory.size_lists_newList _ _).symm

/-- What is declared is bound to cells that memory has afterwards. -/
theorem Program.index_lt_of_declare {program : Program} (shared : SharedState) {index : Nat}
    {binding : Binding Address} {address : Address}
    (bound : (program.declare shared).2.scope.vars.get? index = some binding)
    (target_eq : binding.target = some address) :
    address.index < (program.declare shared).2.shared.memory.size := by
  rcases exists_last_of_bound shared bound with
    ⟨position, declaration, other, last, index_eq, rfl⟩
  cases target_eq
  have position_lt := last.lt_length
  rw [program.length_declarations] at position_lt
  rw [program.size_declare, index_eq]
  exact Nat.add_lt_add_left position_lt _

/-- The arguments of a program that has been linked are in cells of their own. -/
structure Context.HasArguments (linked : Context) (values : List Value) (cells : ArgumentCells) :
    Prop where
  hold : cells.Hold values linked.shared
  length_eq : linked.shared.memory.listLength cells.handle = values.length
  nodup : cells.elements.Nodup
  list_not_mem : cells.list ∉ cells.elements
  /-- No variable is bound to the cell of an argument or of their list. -/
  apart : ∀ index binding address, linked.scope.vars.get? index = some binding →
    binding.target = some address → address ≠ cells.list ∧ address ∉ cells.elements
  existed : ∀ place ∈ cells.places, place.ExistsIn linked
  indexable : cells.Indexable

/-- A program that is linked with arguments has them. -/
theorem Program.exists_hasArguments_of_link {program : Program} {host : Host} {values : List Value}
    {fresh : Bool} {shared : SharedState} {linked : Context}
    (links : program.link host (some values) fresh shared = (.ok (), linked))
    (small : linked.shared.memory.size ≤ indexableCells) :
    ∃ cells, linked.HasArguments values cells := by
  rcases exists_declared_of_link links with ⟨imported, -, -, rfl⟩
  have shared_eq : ((program.declare imported).2.withArguments (some values)).shared =
      (program.declare imported).2.shared.passArguments values := rfl
  rw [shared_eq] at small
  rcases SharedState.exists_cells_of_passArguments _ values small with
    ⟨cells, held, adjacent, size_eq, handle_lt⟩
  rw [size_eq] at small
  refine ⟨cells, held, ?_, adjacent.nodup, adjacent.list_not_mem, ?_, ?_,
    adjacent.indexable small⟩
  · rw [shared_eq, Memory.listLength, held.slots_eq, List.size_toArray, List.length_map,
      held.length_eq]
  · intro index binding address bound target_eq
    exact adjacent.apart (index_lt_of_declare imported bound target_eq)
  · intro place member
    apply adjacent.existsIn _ handle_lt member
    rw [shared_eq, size_eq]
    exact Nat.lt_succ_self _

end ScriptMachine
