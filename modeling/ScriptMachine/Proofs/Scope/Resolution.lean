import ScriptMachine.Scope.Binding

/-!
# Resolution of names

A table resolves a name to the least of the indices that export it.  What a name resolves to
therefore depends on nothing but which indices export it: not on where bindings lead, and
not on bindings that are hidden.
-/

namespace ScriptMachine

namespace Table

variable {α τ : Type}

theorem mem_toList_iff (table : Table α) (index : Nat) (entry : α) :
    (index, entry) ∈ table.toList ↔ table.get? index = some entry := by
  simp only [toList, get?, List.mem_filterMap, Prod.exists, List.mem_zipIdx_iff_getElem?]
  constructor
  · rintro ⟨slot, position, found, mapped⟩
    cases slot with
    | none => simp at mapped
    | some value =>
        simp only [Option.map_some, Option.some.injEq, Prod.mk.injEq] at mapped
        obtain ⟨rfl, rfl⟩ := mapped
        rw [Array.getElem?_toList] at found
        rw [found, Option.join_some]
  · intro found
    have slot : table.entries[index]? = some (some entry) := Option.join_eq_some_iff.mp found
    exact ⟨some entry, index, by rw [Array.getElem?_toList, slot], rfl⟩

/-- The entries of a table are listed by increasing index. -/
theorem pairwise_toList (table : Table α) :
    table.toList.Pairwise fun first second => first.1 < second.1 := by
  have indices : table.entries.toList.zipIdx.Pairwise fun first second => first.2 < second.2 := by
    rw [← List.pairwise_map, List.zipIdx_map_snd]
    exact List.pairwise_lt_range'
  apply indices.filterMap
  rintro ⟨firstSlot, firstIndex⟩ ⟨secondSlot, secondIndex⟩ before first firstMem second secondMem
  simp only [Option.map_eq_some_iff] at firstMem secondMem
  obtain ⟨_, _, rfl⟩ := firstMem
  obtain ⟨_, _, rfl⟩ := secondMem
  exact before

/-- An index exports a name. -/
def Exports (table : Table (Binding τ)) (name : String) (index : Nat) : Prop :=
  ∃ binding, table.get? index = some binding ∧ binding.visibility = .exported ∧
    binding.name = name

/-- A name resolves to nothing exactly if no index exports it. -/
theorem resolve?_eq_none_iff (table : Table (Binding τ)) (name : String) :
    table.resolve? name = none ↔ ∀ index, ¬table.Exports name index := by
  rw [resolve?, Option.map_eq_none_iff, List.find?_eq_none]
  constructor
  · rintro hidden index ⟨binding, bound, exported⟩
    exact hidden (index, binding) ((table.mem_toList_iff index binding).mpr bound)
      (decide_eq_true exported)
  · rintro hidden ⟨index, binding⟩ member exported
    exact hidden index ⟨binding, (table.mem_toList_iff index binding).mp member,
      of_decide_eq_true exported⟩

/-- A name resolves to the least index that exports it. -/
theorem resolve?_eq_some_iff (table : Table (Binding τ)) (name : String) (index : Nat) :
    table.resolve? name = some index ↔
      table.Exports name index ∧ ∀ other, table.Exports name other → index ≤ other := by
  have least_of_resolve {found : Nat} (resolved : table.resolve? name = some found) :
      table.Exports name found ∧ ∀ other, table.Exports name other → found ≤ other := by
    obtain ⟨⟨_, binding⟩, first, rfl⟩ := Option.map_eq_some_iff.mp resolved
    obtain ⟨exported, before, after, list_eq, not_before⟩ := List.find?_eq_some_iff_append.mp first
    have sorted := table.pairwise_toList
    have member := (table.mem_toList_iff _ binding).mp (List.mem_of_find?_eq_some first)
    simp only [decide_eq_true_eq] at exported
    constructor
    · exact ⟨binding, member, exported⟩
    · rintro other ⟨otherBinding, otherBound, otherExported⟩
      have otherMember := (table.mem_toList_iff other otherBinding).mpr otherBound
      rw [list_eq] at otherMember sorted
      rcases List.mem_append.mp otherMember with earlier | later
      · simpa [otherExported] using not_before _ earlier
      · rcases List.mem_cons.mp later with same | later
        · exact Nat.le_of_eq (congrArg Prod.fst same).symm
        · exact Nat.le_of_lt
            ((List.pairwise_cons.mp (List.pairwise_append.mp sorted).2.1).1 _ later)
  constructor
  · exact least_of_resolve
  · rintro ⟨⟨binding, bound, exported⟩, least⟩
    cases resolved : table.resolve? name with
    | none =>
        exact absurd ⟨binding, bound, exported⟩
          ((table.resolve?_eq_none_iff name).mp resolved index)
    | some found =>
        obtain ⟨foundExports, foundLeast⟩ := least_of_resolve resolved
        have index_le := least found foundExports
        have found_le := foundLeast index ⟨binding, bound, exported⟩
        rw [Nat.le_antisymm found_le index_le]

/-- Tables that export a name from the same indices resolve it alike. -/
theorem resolve?_congr {left right : Table (Binding τ)} {name : String}
    (same : ∀ index, left.Exports name index ↔ right.Exports name index) :
    left.resolve? name = right.resolve? name := by
  apply Option.ext
  intro index
  rw [resolve?_eq_some_iff, resolve?_eq_some_iff]
  simp only [same]

end Table

end ScriptMachine
