import ScriptMachine.Proofs.Lists.Histories

/-!
# Shared lists

A list is shared by all that have a handle of it.  Handles are copied at will, also into cells and
out of them again, and what is done through one of them is seen through all others of that list and
through no handle of any other.

A `ListClient` makes lists, copies handles and changes slots in a memory.  A `ListLedger` takes the
same requests without any memory: it notes which list each handle is of, and the history of each
list.  `ListClient.Follows` states that every handle shows the history of its list, and every
request keeps it.
-/

namespace ScriptMachine

open SlotRequest (count stored ofSlots)

/-! ## Requests -/

/-- What can be done with lists.  Handles are numbered in the order in which they are obtained. -/
inductive ListRequest where
  /-- Makes a list with slots. -/
  | create (slots : Array (Option Address))
  /-- Obtains another handle of the same list. -/
  | clone (number : Nat)
  /-- Writes a handle to a cell. -/
  | keep (number : Nat) (address : Address)
  /-- Obtains the handle in a cell, if there is one. -/
  | fetch (address : Address)
  | change (number : Nat) (request : SlotRequest)

/-! ## Requests of a memory -/

/-- A memory, and the handles that were obtained from it.  Only handles of lists that were made
before are in use. -/
structure ListClient where
  memory : Memory
  handles : List ListHandle
  handle_lt : ∀ handle ∈ handles, handle.index < memory.lists.size
  cell_lt : ∀ address handle, memory.lookup address = .list handle →
    handle.index < memory.lists.size

namespace ListClient

/-- A memory without lists. -/
def empty : ListClient where
  memory := .empty
  handles := []
  handle_lt _ member := nomatch member
  cell_lt address handle holds := by
    have outside : Memory.empty.size ≤ address.index := address.positive
    rw [Memory.lookup_of_size_le outside] at holds
    cases holds

/-- Makes a list with slots. -/
def make (client : ListClient) (slots : Array (Option Address)) : ListClient where
  memory := (client.memory.newList slots).2
  handles := client.handles
  handle_lt handle member := by
    rw [Memory.size_lists_newList]
    exact Nat.lt_succ_of_lt (client.handle_lt handle member)
  cell_lt address handle holds := by
    rw [Memory.size_lists_newList]
    exact Nat.lt_succ_of_lt (client.cell_lt address handle holds)

theorem new_handle_lt (client : ListClient) (slots : Array (Option Address)) :
    (client.memory.newList slots).1.index < (client.make slots).memory.lists.size := by
  rw [make, Memory.size_lists_newList]
  exact Nat.lt_succ_self _

/-- One more handle of a list. -/
def obtained (client : ListClient) (handle : ListHandle)
    (known : handle.index < client.memory.lists.size) : ListClient where
  memory := client.memory
  handles := client.handles ++ [handle]
  handle_lt other member := by
    rcases List.mem_append.mp member with old | new
    · exact client.handle_lt other old
    · rw [List.mem_singleton.mp new]
      exact known
  cell_lt := client.cell_lt

/-- Writes a handle to a cell. -/
def keep (client : ListClient) (address : Address) (handle : ListHandle)
    (known : handle.index < client.memory.lists.size) : ListClient where
  memory := client.memory.write address (.list handle)
  handles := client.handles
  handle_lt := by
    rw [Memory.lists_write]
    exact client.handle_lt
  cell_lt other otherHandle holds := by
    rw [Memory.lookup_write] at holds
    rw [Memory.lists_write]
    split at holds
    · cases holds
      exact known
    · exact client.cell_lt other otherHandle holds

/-- Reads a cell for the list in it. -/
def read (client : ListClient) (address : Address) : ListClient where
  memory := ((Memory.listAt address).run client.memory).2
  handles := client.handles
  handle_lt := by
    rw [Memory.snd_run_listAt, Memory.lists_extend]
    exact client.handle_lt
  cell_lt other handle holds := by
    rw [Memory.snd_run_listAt, Memory.lookup_extend] at holds
    rw [Memory.snd_run_listAt, Memory.lists_extend]
    exact client.cell_lt other handle holds

theorem memory_read (client : ListClient) (address : Address) :
    (client.read address).memory = client.memory.extend address :=
  Memory.snd_run_listAt _ _

/-- Reads a cell, and obtains the handle in it, if there is one. -/
def fetch (client : ListClient) (address : Address) : ListClient :=
  match found : ((Memory.listAt address).run client.memory).1 with
  | .ok handle =>
      (client.read address).obtained handle (by
        rw [memory_read, Memory.lists_extend]
        exact client.cell_lt address handle ((Memory.fst_run_listAt_eq_ok_iff _ _ _).mp found))
  | .error _ => client.read address

/-- Changes a list through a handle. -/
def change (client : ListClient) (request : SlotRequest) (handle : ListHandle)
    (known : handle.index < client.memory.lists.size) : ListClient where
  memory := client.memory.change handle request
  handles := client.handles
  handle_lt := by
    rw [Memory.size_lists_change known]
    exact client.handle_lt
  cell_lt address other holds := by
    rw [Memory.lookup_change] at holds
    rw [Memory.size_lists_change known]
    exact client.cell_lt address other holds

/-- Work with the handle of a number. -/
def withHandle (client : ListClient) (number : Nat)
    (act : (handle : ListHandle) → handle.index < client.memory.lists.size → ListClient) :
    ListClient :=
  match found : client.handles[number]? with
  | some handle => act handle (client.handle_lt handle (List.mem_of_getElem? found))
  | none => client

section

variable {client : ListClient} {number : Nat}
  (act : (handle : ListHandle) → handle.index < client.memory.lists.size → ListClient)

theorem withHandle_of_some {handle : ListHandle}
    (found : client.handles[number]? = some handle) :
    client.withHandle number act =
      act handle (client.handle_lt handle (List.mem_of_getElem? found)) := by
  unfold withHandle
  split
  · rename_i other found_other
    cases found.symm.trans found_other
    rfl
  · rename_i missing
    cases found.symm.trans missing

theorem withHandle_of_none (missing : client.handles[number]? = none) :
    client.withHandle number act = client := by
  unfold withHandle
  split
  · rename_i handle found
    cases missing.symm.trans found
  · rfl

end

/-- The client after a request; handles that were not obtained are passed over. -/
def perform (client : ListClient) : ListRequest → ListClient
  | .create slots =>
      (client.make slots).obtained (client.memory.newList slots).1 (client.new_handle_lt slots)
  | .clone number => client.withHandle number client.obtained
  | .keep number address => client.withHandle number (client.keep address)
  | .fetch address => client.fetch address
  | .change number request => client.withHandle number (client.change request)

/-- The client after requests in order. -/
def performAll (client : ListClient) (requests : List ListRequest) : ListClient :=
  requests.foldl perform client

end ListClient

/-! ## Requests of a ledger -/

/-- The histories of lists in the order in which they were made, the list of each handle, and the
lists in cells. -/
structure ListLedger where
  histories : List (List SlotRequest)
  handles : List Nat
  cells : Address → Option Nat

namespace ListLedger

/-- Notes a list that was made with slots. -/
def make (ledger : ListLedger) (slots : Array (Option Address)) : ListLedger :=
  { ledger with histories := ledger.histories ++ [ofSlots slots] }

/-- Notes one more handle of a list. -/
def obtained (ledger : ListLedger) (list : Nat) : ListLedger :=
  { ledger with handles := ledger.handles ++ [list] }

/-- Notes the list in a cell. -/
def keep (ledger : ListLedger) (address : Address) (list : Nat) : ListLedger :=
  { ledger with cells := fun other => if other = address then some list else ledger.cells other }

/-- Notes a change of a list. -/
def change (ledger : ListLedger) (request : SlotRequest) (list : Nat) : ListLedger :=
  { ledger with histories := ledger.histories.modify list (request :: ·) }

/-- Work with a list, if there is one. -/
def withList (ledger : ListLedger) (list? : Option Nat) (act : Nat → ListLedger) : ListLedger :=
  (list?.map act).getD ledger

/-- The ledger after a request.  A new list has a number that no list had before. -/
def perform (ledger : ListLedger) : ListRequest → ListLedger
  | .create slots => (ledger.make slots).obtained ledger.histories.length
  | .clone number => ledger.withList ledger.handles[number]? ledger.obtained
  | .keep number address => ledger.withList ledger.handles[number]? (ledger.keep address)
  | .fetch address => ledger.withList (ledger.cells address) ledger.obtained
  | .change number request => ledger.withList ledger.handles[number]? (ledger.change request)

/-- The ledger after requests in order. -/
def performAll (ledger : ListLedger) (requests : List ListRequest) : ListLedger :=
  requests.foldl perform ledger

end ListLedger

namespace ListClient

/-- The ledger that begins with the lists of a client as they are. -/
def ledger (client : ListClient) : ListLedger where
  histories := (List.range client.memory.lists.size).map fun list =>
    ofSlots (client.memory.slots ⟨list⟩)
  handles := client.handles.map ListHandle.index
  cells address :=
    match client.memory.lookup address with
    | .list handle => some handle.index
    | _ => none

/-- The handles and the cells of a client are of the lists that a ledger has for them, and the lists
have their histories. -/
structure Follows (client : ListClient) (ledger : ListLedger) : Prop where
  handles_eq : ledger.handles = client.handles.map ListHandle.index
  cells_iff : ∀ address list, ledger.cells address = some list ↔
    client.memory.lookup address = .list ⟨list⟩
  length_eq : ledger.histories.length = client.memory.lists.size
  records : ∀ list history, ledger.histories[list]? = some history →
    client.memory.Records ⟨list⟩ history

variable {client : ListClient} {ledger : ListLedger}

/-! ## One request -/

namespace Follows

theorem make (follows : client.Follows ledger) (slots : Array (Option Address)) :
    (client.make slots).Follows (ledger.make slots) where
  handles_eq := follows.handles_eq
  cells_iff := follows.cells_iff
  length_eq := by
    rw [ListLedger.make, ListClient.make, List.length_append, follows.length_eq,
      Memory.size_lists_newList]
    rfl
  records list history found := by
    rw [ListLedger.make, List.getElem?_append] at found
    split at found
    · rename_i earlier
      apply (follows.records list history found).congr
      apply (client.memory.preserves_newList slots).slots_eq
      exact Nat.lt_of_lt_of_eq earlier follows.length_eq
    · rename_i not_earlier
      rw [List.getElem?_singleton] at found
      split at found
      · rename_i last
        cases found
        have list_eq : list = client.memory.lists.size := by
          rw [← follows.length_eq]
          omega
        rw [list_eq]
        exact .newList client.memory slots
      · cases found

theorem obtained (follows : client.Follows ledger) (handle : ListHandle)
    (known : handle.index < client.memory.lists.size) :
    (client.obtained handle known).Follows (ledger.obtained handle.index) where
  handles_eq := by
    rw [ListLedger.obtained, ListClient.obtained, List.map_append, follows.handles_eq]
    rfl
  cells_iff := follows.cells_iff
  length_eq := follows.length_eq
  records := follows.records

theorem keep (follows : client.Follows ledger) (address : Address) (handle : ListHandle)
    (known : handle.index < client.memory.lists.size) :
    (client.keep address handle known).Follows (ledger.keep address handle.index) where
  handles_eq := follows.handles_eq
  cells_iff other list := by
    simp only [ListLedger.keep, ListClient.keep, Memory.lookup_write]
    split
    · cases handle
      simp
    · exact follows.cells_iff other list
  length_eq := by
    rw [ListClient.keep, Memory.lists_write]
    exact follows.length_eq
  records list history found :=
    (follows.records list history found).of_lists_eq (Memory.lists_write _ _ _)

theorem read (follows : client.Follows ledger) (address : Address) :
    (client.read address).Follows ledger where
  handles_eq := follows.handles_eq
  cells_iff other list := by
    rw [memory_read, Memory.lookup_extend]
    exact follows.cells_iff other list
  length_eq := by
    rw [memory_read, Memory.lists_extend]
    exact follows.length_eq
  records list history found := by
    apply (follows.records list history found).of_lists_eq
    rw [memory_read, Memory.lists_extend]

theorem fetch (follows : client.Follows ledger) (address : Address) :
    (client.fetch address).Follows (ledger.perform (.fetch address)) := by
  have noted_iff (list : Nat) : ledger.cells address = some list ↔
      ((Memory.listAt address).run client.memory).1 = .ok ⟨list⟩ := by
    rw [follows.cells_iff, Memory.fst_run_listAt_eq_ok_iff]
  unfold ListClient.fetch
  rw [ListLedger.perform, ListLedger.withList]
  split
  · rename_i handle found
    rw [(noted_iff handle.index).mpr found]
    exact (follows.read address).obtained handle _
  · rename_i cause refused
    cases noted : ledger.cells address with
    | none => exact follows.read address
    | some list => cases refused.symm.trans ((noted_iff list).mp noted)

theorem change (follows : client.Follows ledger) (request : SlotRequest) (handle : ListHandle)
    (known : handle.index < client.memory.lists.size) :
    (client.change request handle known).Follows (ledger.change request handle.index) where
  handles_eq := follows.handles_eq
  cells_iff address list := by
    rw [ListClient.change, Memory.lookup_change]
    exact follows.cells_iff address list
  length_eq := by
    rw [ListLedger.change, ListClient.change, List.length_modify, Memory.size_lists_change known]
    exact follows.length_eq
  records list history found := by
    rw [ListLedger.change, List.getElem?_modify] at found
    obtain ⟨earlier, listed, rfl⟩ := Option.map_eq_some_iff.mp found
    have records := follows.records list earlier listed
    split
    · rename_i same
      subst same
      exact records.change request
    · rename_i different
      apply records.congr
      apply Memory.slots_change_of_ne
      rintro rfl
      exact different rfl

/-- The handle of a number is of the list that the ledger has for it. -/
theorem withHandle (follows : client.Follows ledger) (number : Nat)
    {act : (handle : ListHandle) → handle.index < client.memory.lists.size → ListClient}
    {note : Nat → ListLedger}
    (acts : ∀ handle known, (act handle known).Follows (note handle.index)) :
    (client.withHandle number act).Follows (ledger.withList ledger.handles[number]? note) := by
  rw [follows.handles_eq, List.getElem?_map]
  cases found : client.handles[number]? with
  | none =>
      rw [withHandle_of_none act found]
      exact follows
  | some handle =>
      rw [withHandle_of_some act found]
      exact acts handle _

theorem perform (follows : client.Follows ledger) (request : ListRequest) :
    (client.perform request).Follows (ledger.perform request) := by
  cases request with
  | create slots =>
      rw [ListLedger.perform, follows.length_eq]
      exact (follows.make slots).obtained _ (client.new_handle_lt slots)
  | clone number => exact follows.withHandle number follows.obtained
  | keep number address => exact follows.withHandle number (follows.keep address)
  | fetch address => exact follows.fetch address
  | change number request => exact follows.withHandle number (follows.change request)

/-! ## Any number of requests -/

theorem performAll (follows : client.Follows ledger) (requests : List ListRequest) :
    (client.performAll requests).Follows (ledger.performAll requests) := by
  induction requests generalizing client ledger with
  | nil => exact follows
  | cons request rest ih => exact ih (follows.perform request)

/-! ## The lists of handles -/

theorem list_eq (follows : client.Follows ledger) {number : Nat} {handle : ListHandle}
    (found : client.handles[number]? = some handle) :
    ledger.handles[number]? = some handle.index := by
  rw [follows.handles_eq, List.getElem?_map, found, Option.map_some]

end Follows

/-! ## Lengths -/

end ListClient

end ScriptMachine
