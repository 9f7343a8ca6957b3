import ScriptMachine.Proofs.Objects.Placement

/-!
# Objects as sequences of entries

What a host sees of the objects that it makes.  An `ObjectRequest` makes an object, works on
one of those made, by its number, or does something else with the memory that they are in.
The same requests can be made of a memory and of sequences of entries, one for each object and
without any memory, and the answers are the same.

The notes of a `Usage` carry the proof: they grow with every object that is made and every entry
that is added, and say that no request reaches another object than its own.
-/

namespace ScriptMachine

/-! ## Requests -/

/-- What a host asks for.  Objects are numbered in the order in which they are made. -/
inductive ObjectRequest where
  | create
  | insert (object : Nat) (key : String) (value : Value)
  | replace (object : Nat) (key : String) (value : Value)
  | lookup (object : Nat) (key : String)
  | contains (object : Nat) (key : String)
  | length (object : Nat)
  | allocate (value : Value)
  | createList
  | read (address : Address)

/-- What a host is told about objects. -/
inductive ObjectAnswer where
  | done
  | value (value : Value)
  | truth (holds : Bool)
  | count (size : Nat)
  | failure (cause : Fault)
  /-- No object of that number has been made. -/
  | noObject

/-- The answers to requests made one after another, and what is left then. -/
def ObjectRequest.answers {σ : Type} (perform : σ → ObjectRequest → ObjectAnswer × σ) :
    σ → List ObjectRequest → List ObjectAnswer × σ
  | state, [] => ([], state)
  | state, request :: rest =>
      let (answer, state) := perform state request
      let (others, state) := answers perform state rest
      (answer :: others, state)

/-! ## Requests of a memory -/

/-- The object in a cell. -/
def Memory.objectAt (address : Address) : Task Memory ObjectCells := do
  let value ← Task.ofUpdate (·.read address)
  Task.ofConversion value.asObject

theorem Placement.In.run_objectAt {usage : Usage} {number : Nat} {object : Placement}
    (placed : object.In usage number) :
    (Memory.objectAt object.cell).run usage.memory = (.ok object.cells, usage.memory) := by
  have read_eq : usage.memory.read object.cell = (.object object.cells, usage.memory) := by
    rw [Memory.read, placed.cell.2, placed.cell.extend_eq]
  rw [Memory.objectAt, Task.run_bind, Task.run_ofUpdate, read_eq]
  rfl

/-- A memory, and the cells of the objects that were made in it. -/
structure ObjectClient where
  memory : Memory
  objects : List Address

namespace ObjectClient

/-- What a host is told about work on an object. -/
def reply {α : Type} (answer : α → ObjectAnswer) : Except Fault α → ObjectAnswer
  | .ok value => answer value
  | .error cause => .failure cause

/-- Work on the object of a number. -/
def onObject {α : Type} (client : ObjectClient) (number : Nat)
    (task : ObjectCells → Task Memory α) (answer : α → ObjectAnswer) :
    ObjectAnswer × ObjectClient :=
  match client.objects[number]? with
  | none => (.noObject, client)
  | some address =>
      let (result, memory) := (Memory.objectAt address >>= task).run client.memory
      (reply answer result, { client with memory := memory })

def perform (client : ObjectClient) : ObjectRequest → ObjectAnswer × ObjectClient
  | .create =>
      let (address, memory) := client.memory.createObject
      (.done, ⟨memory, client.objects ++ [address]⟩)
  | .insert object key value => client.onObject object (·.insert key value) fun _ => .done
  | .replace object key value => client.onObject object (·.replace key value) fun _ => .done
  | .lookup object key => client.onObject object (·.lookup key) .value
  | .contains object key => client.onObject object (·.contains key) .truth
  | .length object => client.onObject object (·.length) .count
  | .allocate value => (.done, { client with memory := (client.memory.allocate value).2 })
  | .createList => (.done, { client with memory := client.memory.createList.2 })
  | .read address => (.done, { client with memory := (client.memory.read address).2 })

end ObjectClient

/-! ## Requests of entries -/

namespace Entries

/-- Work on the entries of the object of a number. -/
def onObject (objects : List Entries) (number : Nat) (act : Entries → ObjectAnswer × Entries) :
    ObjectAnswer × List Entries :=
  match objects[number]? with
  | none => (.noObject, objects)
  | some entries => ((act entries).1, objects.set number (act entries).2)

/-- The value of a key, if there is one. -/
def lookup (key : String) (entries : Entries) : ObjectAnswer × Entries :=
  match entries.valueOf? key with
  | some value => (.value value, entries)
  | none => (.failure (.keyNotFound key), entries)

/-- Replaces the first value of a key, if there is one. -/
def replace (key : String) (value : Value) (entries : Entries) : ObjectAnswer × Entries :=
  match entries.withValue? key value with
  | some replaced => (.done, replaced)
  | none => (.failure (.keyNotFound key), entries)

def perform (objects : List Entries) : ObjectRequest → ObjectAnswer × List Entries
  | .create => (.done, objects ++ [[]])
  | .insert object key value =>
      onObject objects object fun entries => (.done, entries ++ [(key, value)])
  | .replace object key value => onObject objects object (replace key value)
  | .lookup object key => onObject objects object (lookup key)
  | .contains object key =>
      onObject objects object fun entries => (.truth (entries.valueOf? key).isSome, entries)
  | .length object => onObject objects object fun entries => (.count entries.length, entries)
  | .allocate _ | .createList | .read _ => (.done, objects)

end Entries

/-! ## Work on one object -/

namespace ObjectClient

/-- Work on an object in a memory does with its entries what it should. -/
def Realizes {α : Type} (task : ObjectCells → Task Memory α) (answer : α → ObjectAnswer)
    (act : Entries → ObjectAnswer × Entries) : Prop :=
  ∀ {usage : Usage} {number : Nat} {object : Placement}, object.In usage number →
    ∃ result after changed, (task object.cells).run usage.memory = (result, after.memory) ∧
      usage.Changes after number object changed ∧ reply answer result = (act object.contents).1 ∧
      changed.contents = (act object.contents).2

theorem realizes_insert (key : String) (value : Value) :
    Realizes (·.insert key value) (fun _ => .done) fun entries =>
      (.done, entries ++ [(key, value)]) := by
  intro usage number object placed
  refine ⟨_, _, _, placed.run_insert key value, placed.changes_withEntry key value, rfl, ?_⟩
  simp [Placement.contents, Placement.newEntry]

theorem realizes_replace (key : String) (value : Value) :
    Realizes (·.replace key value) (fun _ => .done) (Entries.replace key value) := by
  intro usage number object placed
  have run := placed.run_replace key value
  cases replaced : object.contents.withValue? key value with
  | some entries =>
      rw [replaced] at run
      obtain ⟨after, changed, run, changes, contents_eq⟩ := run
      rw [Entries.replace, replaced]
      exact ⟨_, after, changed, run, changes, rfl, contents_eq⟩
  | none =>
      rw [replaced] at run
      rw [Entries.replace, replaced]
      exact ⟨_, usage, object, run, .refl placed, rfl, rfl⟩

theorem realizes_lookup (key : String) :
    Realizes (·.lookup key) .value (Entries.lookup key) := by
  intro usage number object placed
  have run := placed.run_lookup key
  cases found : object.contents.valueOf? key with
  | some value =>
      rw [found] at run
      rw [Entries.lookup, found]
      exact ⟨_, usage, object, run, .refl placed, rfl, rfl⟩
  | none =>
      rw [found] at run
      rw [Entries.lookup, found]
      exact ⟨_, usage, object, run, .refl placed, rfl, rfl⟩

theorem realizes_contains (key : String) :
    Realizes (·.contains key) .truth fun entries =>
      (.truth (entries.valueOf? key).isSome, entries) :=
  fun placed => ⟨_, _, _, placed.run_contains key, .refl placed, rfl, rfl⟩

theorem realizes_length :
    Realizes (·.length) .count fun entries => (.count entries.length, entries) :=
  fun placed => ⟨_, _, _, placed.run_length, .refl placed, rfl, rfl⟩

/-! ## All objects -/

/-- The objects of a client have entries, and no part in common. -/
structure Holds (client : ObjectClient) (objects : List Entries) (usage : Usage)
    (placements : List Placement) : Prop where
  memory_eq : usage.memory = client.memory
  objects_eq : client.objects = placements.map Placement.cell
  contents_eq : objects = placements.map Placement.contents
  placed : Placement.AllIn usage placements

/-- The objects of a client have entries, wherever they are. -/
def Has (client : ObjectClient) (objects : List Entries) : Prop :=
  ∃ usage placements, client.Holds objects usage placements

variable {client : ObjectClient} {objects : List Entries}

/-- What leaves all that is used alone leaves the entries of all objects. -/
theorem Holds.keep {usage after : Usage} {placements : List Placement}
    {memory : Memory} (holds : client.Holds objects usage placements)
    (keeps : ∀ use, usage.Keeps after use) (memory_eq : after.memory = memory) :
    Has { client with memory := memory } objects :=
  ⟨after, placements, memory_eq, holds.objects_eq, holds.contents_eq, holds.placed.keep keeps⟩

theorem has_onObject {α : Type} {task : ObjectCells → Task Memory α} {answer : α → ObjectAnswer}
    {act : Entries → ObjectAnswer × Entries} (has : client.Has objects)
    (realizes : Realizes task answer act) (number : Nat) :
    (client.onObject number task answer).1 = (Entries.onObject objects number act).1 ∧
      (client.onObject number task answer).2.Has (Entries.onObject objects number act).2 := by
  obtain ⟨usage, placements, memory_eq, objects_eq, contents_eq, placed⟩ := id has
  unfold onObject Entries.onObject
  cases found : placements[number]? with
  | none =>
      have noAddress : client.objects[number]? = none := by simp [objects_eq, found]
      have noEntries : objects[number]? = none := by simp [contents_eq, found]
      rw [noAddress, noEntries]
      exact ⟨rfl, has⟩
  | some object =>
      have address : client.objects[number]? = some object.cell := by simp [objects_eq, found]
      have entries : objects[number]? = some object.contents := by simp [contents_eq, found]
      obtain ⟨result, after, changed, run, changes, answer_eq, changed_eq⟩ :=
        realizes (placed number object found)
      have ran : (Memory.objectAt object.cell >>= task).run client.memory =
          (result, after.memory) := by
        rw [← memory_eq, Task.run_bind, (placed number object found).run_objectAt]
        exact run
      rw [address, entries]
      simp only [ran]
      refine ⟨answer_eq, after, placements.set number changed, rfl, ?_, ?_, placed.set changes⟩
      · obtain ⟨number_lt, cell_eq⟩ := List.getElem?_eq_some_iff.mp address
        rw [List.map_set, changes.cell_eq, ← objects_eq, ← cell_eq, List.set_getElem_self]
      · rw [contents_eq, List.map_set, changed_eq]

/-- At the beginning nothing is used. -/
theorem has_nil (memory : Memory) : Has ⟨memory, []⟩ [] :=
  ⟨.unused memory, [], rfl, rfl, rfl, fun _ _ found => by cases found⟩

theorem has_create (has : client.Has objects) :
    (client.perform .create).2.Has (objects ++ [[]]) := by
  obtain ⟨usage, placements, memory_eq, objects_eq, contents_eq, placed⟩ := has
  refine ⟨Placement.withObject usage placements.length,
    placements ++ [Placement.new usage placements.length], ?_, ?_, ?_, ?_⟩
  · rw [perform, ← memory_eq]
    rfl
  · rw [perform, ← memory_eq, objects_eq, List.map_append]
    rfl
  · rw [contents_eq, List.map_append]
    rfl
  · exact placed.add (Placement.keeps_withObject usage placements.length)
      (Placement.in_new usage placements.length)

/-- A request of a memory with objects is answered as the request of their entries. -/
theorem has_perform (has : client.Has objects) (request : ObjectRequest) :
    (client.perform request).1 = (Entries.perform objects request).1 ∧
      (client.perform request).2.Has (Entries.perform objects request).2 := by
  cases request with
  | create => exact ⟨rfl, has_create has⟩
  | insert object key value => exact has_onObject has (realizes_insert key value) object
  | replace object key value => exact has_onObject has (realizes_replace key value) object
  | lookup object key => exact has_onObject has (realizes_lookup key) object
  | contains object key => exact has_onObject has (realizes_contains key) object
  | length object => exact has_onObject has realizes_length object
  | allocate value =>
      obtain ⟨usage, placements, holds⟩ := has
      refine ⟨rfl, holds.keep (usage.keeps_allocate value none) ?_⟩
      rw [← holds.memory_eq]
      rfl
  | createList =>
      obtain ⟨usage, placements, holds⟩ := has
      refine ⟨rfl, holds.keep (usage.keeps_createList none none) ?_⟩
      rw [← holds.memory_eq]
      rfl
  | read address =>
      obtain ⟨usage, placements, holds⟩ := has
      refine ⟨rfl, holds.keep (usage.keeps_extend address) ?_⟩
      rw [← holds.memory_eq]
      rfl

/-! ## Any number of requests -/

theorem has_answers (has : client.Has objects) (requests : List ObjectRequest) :
    (ObjectRequest.answers perform client requests).1 =
        (ObjectRequest.answers Entries.perform objects requests).1 ∧
      (ObjectRequest.answers perform client requests).2.Has
        (ObjectRequest.answers Entries.perform objects requests).2 := by
  induction requests generalizing client objects with
  | nil => exact ⟨rfl, has⟩
  | cons request rest ih =>
      obtain ⟨answer_eq, performed⟩ := has_perform has request
      obtain ⟨answers_eq, hasRest⟩ := ih performed
      refine ⟨?_, hasRest⟩
      simp only [ObjectRequest.answers]
      rw [answer_eq, answers_eq]

/-- A value for a key that there is not changes nothing. -/
theorem perform_replace_missing (has : client.Has objects) {number : Nat} {entries : Entries}
    {key : String} (found : objects[number]? = some entries) (missing : entries.valueOf? key = none)
    (value : Value) :
    client.perform (.replace number key value) = (.failure (.keyNotFound key), client) := by
  obtain ⟨usage, placements, memory_eq, objects_eq, contents_eq, placed⟩ := has
  rw [contents_eq, List.getElem?_map] at found
  obtain ⟨object, listed, rfl⟩ := Option.map_eq_some_iff.mp found
  have address : client.objects[number]? = some object.cell := by simp [objects_eq, listed]
  have run := (placed number object listed).run_replace key value
  rw [(Entries.withValue?_eq_none_iff _ key value).mpr missing] at run
  have ran : (Memory.objectAt object.cell >>= (·.replace key value)).run client.memory =
      (.error (.keyNotFound key), client.memory) := by
    rw [← memory_eq, Task.run_bind, (placed number object listed).run_objectAt]
    exact run
  rw [perform, onObject, address]
  simp only [ran]
  rfl

/-- Objects that are made in any memory answer as sequences of entries of their own, whatever is
asked of them and of the memory around them, in any order.  Adding an entry always succeeds, and
adds it at the end; the value of a key is that of the first entry with it, and so is the one that
is replaced; and a key without an entry is not found, in which case nothing changes. -/
theorem objects_refine_entries (memory : Memory) (requests : List ObjectRequest) :
    (ObjectRequest.answers perform ⟨memory, []⟩ requests).1 =
        (ObjectRequest.answers Entries.perform [] requests).1 ∧
      ∀ number entries key value,
        (ObjectRequest.answers Entries.perform [] requests).2[number]? = some entries →
        entries.valueOf? key = none →
        let client := (ObjectRequest.answers perform ⟨memory, []⟩ requests).2
        client.perform (.replace number key value) = (.failure (.keyNotFound key), client) := by
  obtain ⟨answers_eq, has⟩ := has_answers (has_nil memory) requests
  constructor
  · exact answers_eq
  · intro number entries key value found missing
    exact perform_replace_missing has found missing value

/-- Requests for an object with two entries of one key, and for one without entries. -/
def repeatedKeyRequests : List ObjectRequest :=
  [.create, .insert 0 "a" (.number .one), .insert 0 "b" .none, .create,
    .insert 0 "a" (.text "second"), .replace 0 "a" (.text "first"), .lookup 0 "a", .lookup 0 "c",
    .contains 0 "b", .contains 1 "b", .length 0, .length 1]

theorem objects_refine_entries_repeatedKey :
    (ObjectRequest.answers perform ⟨.empty, []⟩ repeatedKeyRequests).1 =
        [.done, .done, .done, .done, .done, .done, .value (.text "first"),
          .failure (.keyNotFound "c"), .truth true, .truth false, .count 3, .count 0] ∧
      let client := (ObjectRequest.answers perform ⟨.empty, []⟩ repeatedKeyRequests).2
      client.perform (.replace 0 "c" .none) = (.failure (.keyNotFound "c"), client) := by
  obtain ⟨answers_eq, missing⟩ := objects_refine_entries .empty repeatedKeyRequests
  constructor
  · rw [answers_eq]
    rfl
  · exact missing 0 _ "c" .none rfl rfl

end ObjectClient

end ScriptMachine
