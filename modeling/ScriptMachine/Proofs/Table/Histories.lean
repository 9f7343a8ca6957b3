import ScriptMachine.Proofs.Scope.Resolution

/-!
# Tables and their histories

Entries are set in a table, changed in place and removed all at once, in any order.  What a table
holds then is read off its history, the latest request first: an index has the entry that was
stored there last since the table was last cleared, and the size is one more than the greatest index
that was set since then.  Where no entry is set there is none to change, so that a change in place
neither sets an entry nor makes the table longer.

`Table.Records` states this for one table and one history.  Every request keeps it, so that it holds
after all sequences of requests, and the list of entries and the resolution of names follow from it.
-/

namespace ScriptMachine

/-- What can be done to a table. -/
inductive TableRequest (α : Type) where
  | set (index : Nat) (entry : α)
  /-- Changes an entry in place, if there is one.  An assignment is a change that does not look at
  the entry. -/
  | modify (index : Nat) (change : α → α)
  | clear

namespace TableRequest

variable {α τ : Type}

/-! ## Histories -/

/-- The entry that was stored last at an index since the last clearing. -/
def stored? (index : Nat) : List (TableRequest α) → Option α
  | [] | .clear :: _ => none
  | .set other entry :: earlier => if index = other then some entry else stored? index earlier
  | .modify other change :: earlier =>
      if index = other then (stored? index earlier).map change else stored? index earlier

/-- The indices that were set since the last clearing. -/
def indices : List (TableRequest α) → List Nat
  | [] | .clear :: _ => []
  | .set index _ :: earlier => index :: indices earlier
  | .modify _ _ :: earlier => indices earlier

/-- The binding that was stored last at an index exports a name. -/
def Exports (history : List (TableRequest (Binding τ))) (name : String) (index : Nat) : Prop :=
  ∃ binding, stored? index history = some binding ∧ binding.visibility = .exported ∧
    binding.name = name

end TableRequest

namespace Table

open TableRequest (stored? indices)

variable {α τ : Type}

/-! ## Requests -/

/-- The table after a request. -/
def perform (table : Table α) : TableRequest α → Table α
  | .set index entry => (table.swapAt index entry).2
  | .modify index change => table.modify index change
  | .clear => .empty

/-- The table after requests in order. -/
def performAll (table : Table α) (requests : List (TableRequest α)) : Table α :=
  requests.foldl perform table

/-- A table holds what was stored in the course of a history. -/
structure Records (table : Table α) (history : List (TableRequest α)) : Prop where
  get?_eq : ∀ index, table.get? index = stored? index history
  size_le_iff : ∀ bound, table.size ≤ bound ↔ ∀ index ∈ indices history, index < bound

namespace Records

theorem empty : (.empty : Table α).Records [] where
  get?_eq _ := rfl
  size_le_iff bound := by simp [indices]

variable {table : Table α} {history : List (TableRequest α)}

/-- One request is one more in the history. -/
theorem perform (records : table.Records history) (request : TableRequest α) :
    (table.perform request).Records (request :: history) := by
  cases request with
  | set index entry =>
      rw [Table.perform, swapAt_eq]
      constructor
      · intro other
        rw [get?_set, records.get?_eq, stored?]
      · intro bound
        rw [size_set, indices, List.forall_mem_cons, ← records.size_le_iff]
        omega
  | modify index change =>
      rw [Table.perform]
      constructor
      · intro other
        rw [get?_modify, records.get?_eq, stored?]
      · intro bound
        rw [size_modify, indices, records.size_le_iff]
  | clear =>
      constructor
      · exact fun _ => rfl
      · exact empty.size_le_iff

theorem performAll (records : table.Records history) (requests : List (TableRequest α)) :
    (table.performAll requests).Records (requests.reverse ++ history) := by
  induction requests generalizing table history with
  | nil => exact records
  | cons request rest ih =>
      rw [List.reverse_cons, List.append_assoc]
      exact ih (records.perform request)

/-! ## What follows from the history -/

theorem fst_swapAt (records : table.Records history) (index : Nat) (entry : α) :
    (table.swapAt index entry).1 = stored? index history := by
  rw [swapAt_eq]
  exact records.get?_eq index

/-- The size is bounded by all indices that were set, and by nothing less. -/
theorem size_eq (records : table.Records history) :
    indices history = [] ∧ table.size = 0 ∨
      ∃ greatest ∈ indices history, (∀ index ∈ indices history, index ≤ greatest) ∧
        table.size = greatest + 1 := by
  have inside := (records.size_le_iff table.size).mp (Nat.le_refl _)
  rcases Nat.eq_zero_or_pos table.size with none_set | positive
  · rw [none_set] at inside
    left
    refine ⟨List.eq_nil_iff_forall_not_mem.mpr ?_, none_set⟩
    exact fun index member => Nat.not_lt_zero index (inside index member)
  · right
    -- The size less one is no bound, and an index that shows this is the greatest.
    have exceeded : ¬table.size ≤ table.size - 1 := by omega
    rw [records.size_le_iff] at exceeded
    simp only [Classical.not_forall, Nat.not_lt] at exceeded
    obtain ⟨greatest, member, last_le⟩ := exceeded
    have greatest_lt := inside greatest member
    refine ⟨greatest, member, ?_, by omega⟩
    intro index other
    have index_lt := inside index other
    omega

theorem mem_toList_iff (records : table.Records history) (index : Nat) (entry : α) :
    (index, entry) ∈ table.toList ↔ stored? index history = some entry := by
  rw [Table.mem_toList_iff, records.get?_eq]

theorem exports_iff {table : Table (Binding τ)} {history : List (TableRequest (Binding τ))}
    (records : table.Records history) (name : String) (index : Nat) :
    table.Exports name index ↔ TableRequest.Exports history name index := by
  rw [Table.Exports, TableRequest.Exports, records.get?_eq]

end Records

theorem records_performAll (requests : List (TableRequest α)) :
    (empty.performAll requests).Records requests.reverse := by
  have records := (Records.empty (α := α)).performAll requests
  rw [List.append_nil] at records
  exact records

/-- After any sequence of requests, a table that was empty is the finite map of its history.  Each
index has the entry that was stored there last, and setting another gives that entry back.  The
size is one more than the greatest index that was set, the list of entries has exactly those that
are set, in strictly increasing order of their indices, and a name resolves to the least index whose
binding exports it. -/
theorem table_refines_map (requests : List (TableRequest α))
    (declarations : List (TableRequest (Binding τ))) (name : String) :
    (let table := empty.performAll requests
      let history := requests.reverse
      (∀ index, table.get? index = stored? index history) ∧
      (∀ index entry, (table.swapAt index entry).1 = stored? index history) ∧
      (indices history = [] ∧ table.size = 0 ∨
        ∃ greatest ∈ indices history, (∀ index ∈ indices history, index ≤ greatest) ∧
          table.size = greatest + 1) ∧
      (∀ index entry, (index, entry) ∈ table.toList ↔ stored? index history = some entry) ∧
      table.toList.Pairwise fun first second => first.1 < second.1) ∧
    let table := empty.performAll declarations
    let Exporting := TableRequest.Exports declarations.reverse name
    (∀ index, table.resolve? name = some index ↔
      Exporting index ∧ ∀ other, Exporting other → index ≤ other) ∧
    (table.resolve? name = none ↔ ∀ index, ¬Exporting index) := by
  constructor
  · intro table history
    have records : table.Records history := records_performAll requests
    exact ⟨records.get?_eq, records.fst_swapAt, records.size_eq, records.mem_toList_iff,
      table.pairwise_toList⟩
  · intro table Exporting
    have exports_iff : ∀ index, table.Exports name index ↔ Exporting index :=
      (records_performAll declarations).exports_iff name
    constructor
    · intro index
      rw [table.resolve?_eq_some_iff, exports_iff]
      simp only [exports_iff]
    · rw [table.resolve?_eq_none_iff]
      simp only [exports_iff]

end Table

end ScriptMachine
