import ScriptMachine.Proofs.Memory.Growth

/-!
# Memory as a total map

To those who use it, a memory is a total map of indices to values with a supply of indices that are
not in use.  What extending does is not seen in the map: a cell past the end holds nothing, whether
or not it is there.  But it counts for the supply, so that the address of a new cell is one that no
request has been about before.

Requests are served one after another, and every answer is that of the map.
-/

namespace ScriptMachine

/-! ## Maps -/

/-- A total map of indices to values, which leads to nothing from a length on. -/
@[ext]
structure CellMap where
  value : Nat → Value
  length : Nat
  null : value 0 = .none
  positive : 0 < length
  unset : ∀ index, length ≤ index → value index = .none

namespace CellMap

/-- The map with its length beyond an address. -/
def reach (map : CellMap) (address : Address) : CellMap where
  value := map.value
  length := max map.length (address.index + 1)
  null := map.null
  positive := Nat.lt_of_lt_of_le map.positive (Nat.le_max_left _ _)
  unset index outside := map.unset index (Nat.le_trans (Nat.le_max_left _ _) outside)

/-- The map changed at an address, with its length beyond it. -/
def update (map : CellMap) (address : Address) (value : Value) : CellMap where
  value index := if index = address.index then value else map.value index
  length := max map.length (address.index + 1)
  null := by
    rw [if_neg (Nat.ne_of_lt address.positive)]
    exact map.null
  positive := Nat.lt_of_lt_of_le map.positive (Nat.le_max_left _ _)
  unset index outside := by
    rw [if_neg (Nat.ne_of_gt (Nat.lt_of_lt_of_le (Nat.lt_succ_self _)
      (Nat.le_trans (Nat.le_max_right _ _) outside)))]
    exact map.unset index (Nat.le_trans (Nat.le_max_left _ _) outside)

/-- The map changed at its length, which is one more afterwards. -/
def add (map : CellMap) (value : Value) : CellMap where
  value index := if index = map.length then value else map.value index
  length := map.length + 1
  null := by
    rw [if_neg (Nat.ne_of_lt map.positive)]
    exact map.null
  positive := Nat.succ_pos map.length
  unset index outside := by
    rw [if_neg (Nat.ne_of_gt outside)]
    exact map.unset index (Nat.le_of_succ_le outside)

end CellMap

/-! ## Requests -/

/-- What can be asked of a memory. -/
inductive MemoryRequest where
  | allocate (value : Value)
  | read (address : Address)
  | write (address : Address) (value : Value)
  /-- The list in a cell. -/
  | list (address : Address)
  | createList
  | createObject

/-- What a memory answers. -/
inductive MemoryAnswer where
  /-- The address of a new cell. -/
  | cell (address : Address)
  | value (value : Value)
  | list (handle : ListHandle)
  | fault (cause : Fault)
  | done

/-- The address that a request is about. -/
def MemoryRequest.address? : MemoryRequest → Option Address
  | .read address | .write address _ | .list address => some address
  | _ => none

/-- The address that is returned. -/
def MemoryAnswer.address? : MemoryAnswer → Option Address
  | .cell address => some address
  | _ => none

/-- A request with its answer. -/
structure MemoryExchange where
  request : MemoryRequest
  answer : MemoryAnswer

/-- An address was passed or returned. -/
def MemoryExchange.Mentions (exchange : MemoryExchange) (address : Address) : Prop :=
  exchange.request.address? = some address ∨ exchange.answer.address? = some address

namespace Memory

/-- Serves a request. -/
def serve (memory : Memory) : MemoryRequest → MemoryAnswer × Memory
  | .allocate value => (memory.allocate value).map .cell id
  | .read address => (memory.read address).map .value id
  | .write address value => (.done, memory.write address value)
  | .list address =>
      match (listAt address).run memory with
      | (.ok handle, after) => (.list handle, after)
      | (.error cause, after) => (.fault cause, after)
  | .createList => memory.createList.map .cell id
  | .createObject => memory.createObject.map .cell id

/-- Serves requests in order. -/
def serveAll (memory : Memory) : List MemoryRequest → List MemoryExchange × Memory
  | [] => ([], memory)
  | request :: rest =>
      let (answer, memory) := memory.serve request
      let (exchanges, memory) := memory.serveAll rest
      (⟨request, answer⟩ :: exchanges, memory)

end Memory

namespace CellMap

/-- How a map answers a request, and the map afterwards.  A new cell has the length of the map for
its index. -/
inductive Serves (map : CellMap) : MemoryRequest → MemoryAnswer → CellMap → Prop where
  | allocate {value : Value} {address : Address} (index_eq : address.index = map.length) :
      Serves map (.allocate value) (.cell address) (map.add value)
  | read (address : Address) :
      Serves map (.read address) (.value (map.value address.index)) (map.reach address)
  | write (address : Address) (value : Value) :
      Serves map (.write address value) .done (map.update address value)
  | list {address : Address} {handle : ListHandle}
      (holds : map.value address.index = .list handle) :
      Serves map (.list address) (.list handle) (map.reach address)
  | mismatch {address : Address} (holds : ∀ handle, map.value address.index ≠ .list handle) :
      Serves map (.list address)
        (.fault (.typeMismatch ((map.value address.index).mismatch .list))) (map.reach address)
  | createList {address : Address} (handle : ListHandle) (index_eq : address.index = map.length) :
      Serves map .createList (.cell address) (map.add (.list handle))
  /-- The lists of a new object are in the two cells before it. -/
  | createObject {cells : ObjectCells} {address : Address} (keys values : ListHandle)
      (keys_eq : cells.keys.index = map.length) (values_eq : cells.values.index = map.length + 1)
      (index_eq : address.index = map.length + 2) :
      Serves map .createObject (.cell address)
        (((map.add (.list keys)).add (.list values)).add (.object cells))

/-- Requests are answered in order as a map does it. -/
inductive ServesAll : CellMap → List MemoryExchange → CellMap → Prop where
  | nil (map : CellMap) : ServesAll map [] map
  | cons {before middle after : CellMap} {exchange : MemoryExchange}
      {rest : List MemoryExchange} (first : before.Serves exchange.request exchange.answer middle)
      (others : ServesAll middle rest after) : ServesAll before (exchange :: rest) after

variable {before after : CellMap} {request : MemoryRequest} {answer : MemoryAnswer}

theorem Serves.length_le (serves : before.Serves request answer after) :
    before.length ≤ after.length := by
  cases serves with
  | allocate | createList => exact Nat.le_succ _
  | read | write | list | mismatch => exact Nat.le_max_left _ _
  | createObject => exact Nat.le_add_right _ 3

/-- Addresses that were passed or returned are out of the supply. -/
theorem Serves.lt_length {address : Address} (serves : before.Serves request answer after)
    (mentions : (MemoryExchange.mk request answer).Mentions address) :
    address.index < after.length := by
  rcases mentions with passed | returned
  · cases serves with
    | read | write | list | mismatch =>
        cases passed
        exact Nat.le_max_right _ _
    | allocate | createList | createObject => cases passed
  · cases serves with
    | allocate index_eq | createList _ index_eq =>
        cases returned
        rw [index_eq]
        exact Nat.lt_succ_self _
    | createObject _ _ _ _ index_eq =>
        cases returned
        rw [index_eq]
        exact Nat.lt_succ_self _
    | read | write | list | mismatch => cases returned

/-- What is returned is from the supply. -/
theorem Serves.length_le_index {address : Address}
    (serves : before.Serves request (.cell address) after) : before.length ≤ address.index := by
  cases serves with
  | allocate index_eq | createList _ index_eq => exact Nat.le_of_eq index_eq.symm
  | createObject _ _ _ _ index_eq =>
      rw [index_eq]
      exact Nat.le_add_right _ 2

theorem ServesAll.length_le {exchanges : List MemoryExchange}
    (serves : before.ServesAll exchanges after) : before.length ≤ after.length := by
  induction serves with
  | nil => exact Nat.le_refl _
  | cons first others ih => exact Nat.le_trans first.length_le ih

theorem ServesAll.lt_length {exchanges : List MemoryExchange} {exchange : MemoryExchange}
    {address : Address} (serves : before.ServesAll exchanges after)
    (member : exchange ∈ exchanges) (mentions : exchange.Mentions address) :
    address.index < after.length := by
  induction serves with
  | nil => cases member
  | cons first others ih =>
      rcases List.mem_cons.mp member with rfl | later
      · exact Nat.lt_of_lt_of_le (first.lt_length mentions) others.length_le
      · exact ih later

end CellMap

/-! ## The map of a memory -/

namespace Memory

/-- What is in the cells of a memory, and nothing past the end. -/
def cellMap (memory : Memory) : CellMap where
  value index := memory.cells[index]?.getD .none
  length := memory.size
  null := by rw [memory.null_cell, Option.getD_some]
  positive := memory.size_pos
  unset index outside := by rw [Array.getElem?_eq_none outside, Option.getD_none]

/-- The null cell need not be looked at. -/
theorem cellMap_eq {memory : Memory} {map : CellMap} (length_eq : memory.size = map.length)
    (lookup_eq : ∀ address, memory.lookup address = map.value address.index) :
    memory.cellMap = map := by
  apply CellMap.ext _ length_eq
  funext index
  rcases Nat.eq_zero_or_pos index with rfl | positive
  · exact memory.cellMap.null.trans map.null.symm
  · exact lookup_eq ⟨index, positive⟩

theorem cellMap_extend (memory : Memory) (address : Address) :
    (memory.extend address).cellMap = memory.cellMap.reach address :=
  cellMap_eq (memory.size_extend address) (memory.lookup_extend address)

theorem cellMap_write (memory : Memory) (address : Address) (value : Value) :
    (memory.write address value).cellMap = memory.cellMap.update address value := by
  apply cellMap_eq (memory.size_write address value)
  intro other
  rw [lookup_write]
  have same_iff : other = address ↔ other.index = address.index := by
    cases other
    cases address
    simp
  exact ite_congr (propext same_iff) (fun _ => rfl) (fun _ => rfl)

theorem cellMap_allocate (memory : Memory) (value : Value) :
    (memory.allocate value).2.cellMap = memory.cellMap.add value :=
  cellMap_eq (memory.size_allocate value) (memory.lookup_allocate value)

theorem cellMap_createList (memory : Memory) :
    memory.createList.2.cellMap = memory.cellMap.add (.list ⟨memory.lists.size⟩) :=
  cellMap_allocate (memory.newList #[]).2 _

theorem cellMap_createObject (memory : Memory) :
    let keys := memory.createList
    let values := keys.2.createList
    memory.createObject.2.cellMap =
      (values.2.cellMap).add (.object ⟨keys.1, values.1⟩) :=
  cellMap_allocate _ _

/-- A memory serves each request as its map does. -/
theorem serves_serve (memory : Memory) (request : MemoryRequest) :
    memory.cellMap.Serves request (memory.serve request).1 (memory.serve request).2.cellMap := by
  cases request with
  | allocate value =>
      rw [serve, Prod.map_snd, id, cellMap_allocate]
      exact .allocate rfl
  | read address =>
      rw [serve, Prod.map_snd, id, read, cellMap_extend]
      exact .read address
  | write address value =>
      rw [serve, cellMap_write]
      exact .write address value
  | list address =>
      rw [serve, run_listAt]
      cases holds : memory.lookup address with
      | list handle =>
          simp only [Value.asList, cellMap_extend]
          exact .list holds
      | _ =>
          simp only [Value.asList, cellMap_extend]
          rw [← holds]
          exact .mismatch fun handle same => by cases holds.symm.trans same
  | createList =>
      rw [serve, Prod.map_snd, id, cellMap_createList]
      exact .createList _ rfl
  | createObject =>
      rw [serve, Prod.map_snd, id, cellMap_createObject, cellMap_createList, cellMap_createList]
      have keys_size : memory.createList.2.size = memory.size + 1 := size_allocate _ _
      have values_size : memory.createList.2.createList.2.size = memory.size + 2 :=
        (size_allocate _ _).trans (congrArg Nat.succ keys_size)
      exact .createObject _ _ rfl keys_size values_size

/-- A memory serves requests in order as its map does. -/
theorem servesAll_serveAll (memory : Memory) (requests : List MemoryRequest) :
    memory.cellMap.ServesAll (memory.serveAll requests).1 (memory.serveAll requests).2.cellMap := by
  induction requests generalizing memory with
  | nil => exact .nil memory.cellMap
  | cons request rest ih => exact .cons (memory.serves_serve request) (ih (memory.serve request).2)

/-- After any requests, a further one is answered as by the map.  The map leads to nothing past the
end and at null, and its length does not decrease.  A new cell is one that was empty, and that no
request has passed and none has returned before. -/
theorem memory_refines_cellMap (memory : Memory) (requests : List MemoryRequest)
    (request : MemoryRequest) :
    let exchanges := (memory.serveAll requests).1
    let before := (memory.serveAll requests).2
    let answer := (before.serve request).1
    let after := (before.serve request).2
    memory.cellMap.ServesAll exchanges before.cellMap ∧
    before.cellMap.Serves request answer after.cellMap ∧
    (∀ index, before.size ≤ index → before.cellMap.value index = .none) ∧
    before.cellMap.value 0 = .none ∧
    1 ≤ before.size ∧ before.size ≤ after.size ∧
    ∀ address, answer = .cell address →
      before.cellMap.value address.index = .none ∧
      ∀ exchange ∈ exchanges, ¬ exchange.Mentions address := by
  intro exchanges before answer after
  have all : memory.cellMap.ServesAll exchanges before.cellMap := memory.servesAll_serveAll requests
  have serves : before.cellMap.Serves request answer after.cellMap := before.serves_serve request
  refine ⟨all, serves, before.cellMap.unset, before.cellMap.null, before.size_pos,
    serves.length_le, ?_⟩
  intro address answer_eq
  rw [answer_eq] at serves
  have supplied := serves.length_le_index
  refine ⟨before.cellMap.unset _ supplied, ?_⟩
  intro exchange member mentions
  exact Nat.not_lt.mpr supplied (all.lt_length member mentions)

end Memory

end ScriptMachine
