import ScriptMachine.Engine
import ScriptMachine.Proofs.Memory.Growth
import ScriptMachine.Proofs.Scope.Resolution

/-!
# Exported variables

A host reads and writes the exported variables of an engine by name.  Of several variables of one
name it gets the one with the least index.  Programs can bind their variables to any addresses, so
that several names have one cell, that a cell does not exist yet, or that there is none.

`Scope.Binds` says which cell a name has.  Writing a variable changes this cell and nothing else: it
is seen through exactly the names that have the cell.  Reading pads the memory, which is not seen by
any name.
-/

namespace ScriptMachine

/-! ## Names of cells -/

namespace Scope

/-- A name is that of an exported variable, the one with the least index, which is bound to a cell
or to null. -/
def Binds (scope : Scope) (name : String) (slot : Option Address) : Prop :=
  ∃ index binding, scope.vars.get? index = some binding ∧ binding.visibility = .exported ∧
    binding.name = name ∧ (∀ other, scope.vars.Exports name other → index ≤ other) ∧
    binding.target = slot

/-- What the exported variable of a name is bound to. -/
def slot? (scope : Scope) (name : String) : Option (Option Address) :=
  ((scope.vars.resolve? name).bind scope.vars.get?).map Binding.target

variable {scope : Scope} {name : String} {slot : Option Address}

theorem slot?_eq_some_iff : scope.slot? name = some slot ↔ scope.Binds name slot := by
  simp only [slot?, Option.map_eq_some_iff, Option.bind_eq_some_iff, Table.resolve?_eq_some_iff]
  constructor
  · rintro ⟨binding, ⟨index, ⟨⟨_, bound, exported, named⟩, least⟩, found⟩, target_eq⟩
    obtain rfl := Option.some.inj (bound.symm.trans found)
    exact ⟨index, _, bound, exported, named, least, target_eq⟩
  · rintro ⟨index, binding, bound, exported, named, least, target_eq⟩
    exact ⟨binding, ⟨index, ⟨⟨binding, bound, exported, named⟩, least⟩, bound⟩, target_eq⟩

theorem slot?_eq_none_iff :
    scope.slot? name = none ↔ ∀ index, ¬scope.vars.Exports name index := by
  rw [← Table.resolve?_eq_none_iff, slot?, Option.map_eq_none_iff, Option.bind_eq_none_iff]
  constructor
  · intro unbound
    apply Option.eq_none_iff_forall_ne_some.mpr
    intro index resolved
    obtain ⟨binding, bound, -⟩ := ((scope.vars.resolve?_eq_some_iff name index).mp resolved).1
    rw [unbound index resolved] at bound
    cases bound
  · intro unresolved index resolved
    rw [unresolved] at resolved
    cases resolved

end Scope

namespace Engine

/-! ## Reading -/

/-- The engine with another memory. -/
def withMemory (engine : Engine) (memory : Memory) : Engine :=
  { engine with shared.memory := memory }

/-- The engine after variables were read in order. -/
def readVariables (engine : Engine) (names : List String) : Engine :=
  names.foldl (fun engine name => (engine.lookupVariable name).2) engine

theorem fst_lookupVariable (engine : Engine) (name : String) :
    (engine.lookupVariable name).1 =
      (engine.scope.slot? name).map engine.shared.memory.lookupSlot := by
  unfold lookupVariable Scope.slot?
  cases (engine.scope.vars.resolve? name).bind engine.scope.vars.get? <;> rfl

theorem fst_lookupVariable_withMemory (engine : Engine) (memory : Memory) (name : String) :
    ((engine.withMemory memory).lookupVariable name).1 =
      (engine.scope.slot? name).map memory.lookupSlot :=
  fst_lookupVariable _ name

theorem exists_snd_lookupVariable (engine : Engine) (name : String) :
    ∃ memory, engine.shared.memory.PaddedTo memory ∧
      (engine.lookupVariable name).2 = engine.withMemory memory := by
  unfold lookupVariable
  split
  · exact ⟨engine.shared.memory, .refl _, rfl⟩
  · exact ⟨_, engine.shared.memory.paddedTo_extendSlot _, rfl⟩

/-- Reading variables does nothing but pad the memory. -/
theorem exists_readVariables (engine : Engine) (names : List String) :
    ∃ memory, engine.shared.memory.PaddedTo memory ∧
      engine.readVariables names = engine.withMemory memory := by
  induction names generalizing engine with
  | nil => exact ⟨engine.shared.memory, .refl _, rfl⟩
  | cons name rest ih =>
      obtain ⟨middle, padded, read_eq⟩ := engine.exists_snd_lookupVariable name
      obtain ⟨memory, padded', rest_eq⟩ := ih (engine.withMemory middle)
      refine ⟨memory, padded.trans padded', ?_⟩
      rw [readVariables, List.foldl_cons, read_eq]
      exact rest_eq

/-! ## Writing -/

variable {engine : Engine} {name : String}

theorem setVariable_of_slot? {address : Address}
    (slot_eq : engine.scope.slot? name = some (some address)) (value : Value) :
    engine.setVariable name value =
      (true, engine.withMemory (engine.shared.memory.write address value)) := by
  obtain ⟨binding, found, target_eq⟩ := Option.map_eq_some_iff.mp slot_eq
  rw [setVariable, found, Option.bind_some, target_eq]
  rfl

/-- Without a cell there is nothing to write. -/
theorem setVariable_of_no_cell
    (no_cell : ∀ address, engine.scope.slot? name ≠ some (some address)) (value : Value) :
    engine.setVariable name value = (false, engine) := by
  unfold setVariable
  split
  · rfl
  · rename_i address found
    obtain ⟨binding, found, target_eq⟩ := Option.bind_eq_some_iff.mp found
    apply absurd _ (no_cell address)
    rw [Scope.slot?, found, Option.map_some, target_eq]

/-- A variable is written exactly if its name has a cell. -/
theorem fst_setVariable_iff (value : Value) :
    (engine.setVariable name value).1 = true ↔
      ∃ address, engine.scope.slot? name = some (some address) := by
  constructor
  · intro written
    apply Classical.byContradiction
    intro no_cell
    rw [setVariable_of_no_cell (not_exists.mp no_cell)] at written
    cases written
  · rintro ⟨address, slot_eq⟩
    rw [setVariable_of_slot? slot_eq]

theorem no_cell_of_unwritten {value : Value}
    (unwritten : (engine.setVariable name value).1 = false) (address : Address) :
    engine.scope.slot? name ≠ some (some address) := by
  intro slot_eq
  rw [(fst_setVariable_iff value).mpr ⟨address, slot_eq⟩] at unwritten
  cases unwritten

/-- Without a cell there is no variable to read, or it is null. -/
theorem fst_lookupVariable_of_no_cell
    (no_cell : ∀ address, engine.scope.slot? name ≠ some (some address)) (memory : Memory) :
    engine.scope.slot? name = none ∧ ((engine.withMemory memory).lookupVariable name).1 = none ∨
      engine.scope.slot? name = some none ∧
        ((engine.withMemory memory).lookupVariable name).1 = some .none := by
  rw [fst_lookupVariable_withMemory]
  cases slot_eq : engine.scope.slot? name with
  | none => exact .inl ⟨rfl, rfl⟩
  | some slot =>
      cases slot with
      | none => exact .inr ⟨rfl, rfl⟩
      | some address => exact absurd slot_eq (no_cell address)

/-- What is written and then padded by reading. -/
theorem exists_readVariables_written {address : Address}
    (slot_eq : engine.scope.slot? name = some (some address)) (value : Value)
    (reads : List String) :
    ∃ memory, (engine.shared.memory.write address value).PaddedTo memory ∧
      (engine.setVariable name value).2.readVariables reads = engine.withMemory memory := by
  rw [setVariable_of_slot? slot_eq]
  exact (engine.withMemory _).exists_readVariables reads

section Written

variable {address : Address} {value : Value} {memory : Memory}
  (padded : (engine.shared.memory.write address value).PaddedTo memory)

include padded

/-- What was written is seen through all names of the cell. -/
theorem fst_lookupVariable_written (slot_eq : engine.scope.slot? name = some (some address)) :
    ((engine.withMemory memory).lookupVariable name).1 = some value := by
  have lookup_eq : memory.lookup address = value := by
    rw [padded.lookup_eq, Memory.lookup_write, if_pos rfl]
  rw [fst_lookupVariable_withMemory, slot_eq, Option.map_some, Memory.lookupSlot, lookup_eq]

/-- What was written is not seen through any other name. -/
theorem fst_lookupVariable_unwritten (slot_ne : engine.scope.slot? name ≠ some (some address)) :
    ((engine.withMemory memory).lookupVariable name).1 = (engine.lookupVariable name).1 := by
  rw [fst_lookupVariable_withMemory, fst_lookupVariable]
  cases slot_eq : engine.scope.slot? name with
  | none => rfl
  | some slot =>
      cases slot with
      | none => rfl
      | some other =>
          have different : other ≠ address := by
            rintro rfl
            exact slot_ne slot_eq
          simp only [Option.map_some, Memory.lookupSlot, padded.lookup_eq, Memory.lookup_write,
            if_neg different]

end Written

/-- For every engine, a variable is written exactly if its name is that of an exported variable with
a cell.  It then has the value through all names of the cell, however many variables are read in
between, while what is read through other names, all other cells, the lists and everything but the
memory are as they were.  If it is not written nothing has changed; there is either no such
variable, or it is null and reads as nothing. -/
theorem public_variable_lens (engine : Engine) (name : String) (value : Value)
    (reads : List String) :
    let written := engine.setVariable name value
    let after := written.2.readVariables reads
    (written.1 = true ↔ ∃ address, engine.scope.Binds name (some address)) ∧
    (∀ address, engine.scope.Binds name (some address) →
      (after.lookupVariable name).1 = some value ∧
      (∀ other, engine.scope.Binds other (some address) →
        (after.lookupVariable other).1 = some value) ∧
      (∀ other, ¬engine.scope.Binds other (some address) →
        (after.lookupVariable other).1 = (engine.lookupVariable other).1) ∧
      (∀ cell, cell ≠ address →
        after.shared.memory.lookup cell = engine.shared.memory.lookup cell) ∧
      after.shared.memory.lists = engine.shared.memory.lists ∧
      after = engine.withMemory after.shared.memory) ∧
    (written.1 = false →
      written.2 = engine ∧
      ((∀ index, ¬engine.scope.vars.Exports name index) ∧ (after.lookupVariable name).1 = none ∨
        engine.scope.Binds name none ∧ (after.lookupVariable name).1 = some .none)) := by
  intro written after
  simp only [← Scope.slot?_eq_some_iff, ← Scope.slot?_eq_none_iff]
  refine ⟨fst_setVariable_iff value, ?_, ?_⟩
  · intro address slot_eq
    obtain ⟨memory, padded, after_eq⟩ : ∃ memory, _ ∧ after = _ :=
      exists_readVariables_written slot_eq value reads
    rw [after_eq]
    refine ⟨fst_lookupVariable_written padded slot_eq,
      fun _ => fst_lookupVariable_written padded, fun _ => fst_lookupVariable_unwritten padded,
      ?_, padded.lists_eq.trans (Memory.lists_write _ _ _), rfl⟩
    intro cell different
    exact (padded.lookup_eq cell).trans ((Memory.lookup_write _ _ _ _).trans (if_neg different))
  · intro unwritten
    have no_cell := no_cell_of_unwritten unwritten
    have unchanged : written.2 = engine :=
      congrArg Prod.snd (setVariable_of_no_cell no_cell value)
    obtain ⟨memory, -, after_eq⟩ : ∃ memory, _ ∧ after = _ := written.2.exists_readVariables reads
    rw [unchanged] at after_eq
    rw [after_eq]
    exact ⟨unchanged, fst_lookupVariable_of_no_cell no_cell memory⟩

/-- A program that binds two of its variables to one cell that does not exist, and one to null. -/
def sharingProgram : Program where
  imports := []
  constants := []
  vars := [⟨0, "left", .exported⟩, ⟨1, "right", .exported⟩, ⟨2, "left", .exported⟩,
    ⟨3, "nowhere", .exported⟩]
  functions := [⟨0, "main", .exported⟩]
  instructions := #[
    .make .label [.label 0],
    .make .makePointer [.variable 0, .literal (.number (.ofInt 9))],
    .make .makePointer [.variable 1, .literal (.number (.ofInt 9))],
    .make .makePointer [.variable 3, .literal (.number .zero)]]

/-- The engine that has executed this program. -/
def sharingEngine : Engine :=
  ((Engine.ofProgram sharingProgram).execute 5 mainEntry none true).2

/-- One name is written and seen through the other one of its cell, and the name that is null is not
written. -/
theorem public_variable_lens_sharingEngine :
    (let written := sharingEngine.setVariable "left" (.text "shared")
     written.1 = true ∧ (written.2.lookupVariable "right").1 = some (.text "shared") ∧
      (written.2.lookupVariable "nowhere").1 = some .none) ∧
    let written := sharingEngine.setVariable "nowhere" (.text "lost")
    written.1 = false ∧ written.2 = sharingEngine := by
  have left : sharingEngine.scope.slot? "left" = some (some ⟨9, by decide⟩) := by
    decide +kernel
  have right : sharingEngine.scope.slot? "right" = some (some ⟨9, by decide⟩) := by
    decide +kernel
  have nowhere : sharingEngine.scope.slot? "nowhere" = some none := by decide +kernel
  have not_nowhere : ¬sharingEngine.scope.Binds "nowhere" (some ⟨9, by decide⟩) := by
    rw [← Scope.slot?_eq_some_iff, nowhere]
    simp
  rw [Scope.slot?_eq_some_iff] at left right
  obtain ⟨written_iff, written, -⟩ :=
    public_variable_lens sharingEngine "left" (.text "shared") []
  obtain ⟨-, seen, unseen, -⟩ := written _ left
  obtain ⟨-, -, unwritten⟩ := public_variable_lens sharingEngine "nowhere" (.text "lost") []
  have not_written : (sharingEngine.setVariable "nowhere" (.text "lost")).1 = false := by rfl
  have nothing : (sharingEngine.lookupVariable "nowhere").1 = some .none := by rfl
  exact ⟨⟨written_iff.mpr ⟨_, left⟩, seen "right" right,
    (unseen "nowhere" not_nowhere).trans nothing⟩, not_written, (unwritten not_written).1⟩

end Engine

end ScriptMachine
