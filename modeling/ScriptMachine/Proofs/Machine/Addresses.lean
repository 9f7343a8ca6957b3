import ScriptMachine.Proofs.Lists.Slots
import ScriptMachine.Proofs.Machine.Executions
import ScriptMachine.Proofs.Machine.Sequences

/-!
# Addresses as numbers

Programs know addresses as numbers, in which null is zero.  On its way from a variable to a pointer
an address becomes a number, which a register truncates to an integer and a cell keeps, is loaded as
a number again and becomes an address again; and a list takes its slots from numbers and gives them
back as numbers.  Up to the first integer that numbers do not tell from its neighbour nothing is
lost on the way, and all numbers that are not positive are null.
-/

namespace ScriptMachine

/-! ## Integers of addresses -/

namespace Address

/-- The integer of an address that may be null. -/
def code : Option Address → Int
  | some address => address.index
  | none => 0

theorem ofAddress_eq_number (slot : Option Address) :
    Value.ofAddress slot = .number (.ofInt (code slot)) := by
  cases slot with
  | none => decide +kernel
  | some address => rfl

theorem ofRaw?_of_nonpos {raw : Int64} (nonpos : raw.toInt ≤ 0) : ofRaw? raw = none := by
  rw [ofRaw?, dif_neg (by omega)]

/-- The integer of an address stands for it. -/
theorem ofRaw?_eq {slot : Option Address} {raw : Int64} (raw_eq : raw.toInt = code slot) :
    ofRaw? raw = slot := by
  cases slot with
  | none => exact ofRaw?_of_nonpos (Int.le_of_eq raw_eq)
  | some address =>
      have index_eq : raw.toInt.toNat = address.index := by
        rw [raw_eq]
        exact Int.toNat_natCast address.index
      have positive : 0 < raw.toInt.toNat := index_eq ▸ address.positive
      rw [ofRaw?, dif_pos positive]
      simp only [index_eq]

/-- What an integer stands for has the integer, unless that is negative. -/
theorem code_ofRaw? (raw : Int64) : code (ofRaw? raw) = max raw.toInt 0 := by
  unfold ofRaw?
  split
  · simp only [code]
    omega
  · simp only [code]
    omega

/-- An integer becomes the address that it is as a number, and null if it is not positive. -/
theorem code_ofRaw?_toInt64 {value : Int} (small : value ≤ Binary64.exactBound) :
    code (ofRaw? (Binary64.ofInt value).toInt64) = max value 0 := by
  rw [code_ofRaw?]
  rcases Nat.le_total value.natAbs Binary64.exactBound with exact | large
  · rw [Binary64.toInt_toInt64_ofInt exact]
  · by_cases nonpos : value ≤ 0
    · have raw_nonpos := Binary64.toInt_toInt64_ofInt_nonpos nonpos
      omega
    · rw [Binary64.toInt_toInt64_ofInt (by omega)]

end Address

/-! ## Places for numbers -/

namespace Operand

/-- A register, or a variable that is bound to a cell. -/
inductive IsPlace (scope : Scope) : Operand → Prop where
  | register (index : UInt8) : IsPlace scope (.register index)
  | cell {index : UInt64} {address : Address}
      (bound : cell? scope (.variable index) = some address) : IsPlace scope (.variable index)

/-- Loading a place after a small integer was stored gives the integer. -/
theorem IsPlace.keeps {scope : Scope} {place : Operand} {value : Int}
    (isPlace : place.IsPlace scope) (small : value.natAbs ≤ Binary64.exactBound) :
    ∃ effect, place.Receives scope (.number (.ofInt value)) effect ∧ effect ≠ .none ∧
      ∀ context, context.scope = scope → ∃ loaded raw,
        place.evaluate (effect.apply context) = .ok loaded ∧ loaded.toLong = .ok raw ∧
          raw.toInt = value := by
  have kept := Binary64.toInt_toInt64_ofInt small
  cases isPlace with
  | register index =>
      refine ⟨_, .register rfl, by simp, ?_⟩
      intro context _
      have loaded_eq : (context.shared.registers.set index
          (Binary64.ofInt value).toInt64).get index = (Binary64.ofInt value).toInt64 := by
        rw [Registers.get_set, if_pos rfl]
      refine ⟨_, _, rfl, rfl, ?_⟩
      simp only [Effect.apply, loaded_eq, kept]
  | @cell index address bound =>
      refine ⟨_, .cell bound, by simp, ?_⟩
      rintro context rfl
      rcases Option.bind_eq_some_iff.mp bound with ⟨binding, found, target_eq⟩
      refine ⟨.number (.ofInt value), _, ?_, rfl, kept⟩
      simp only [evaluate, Effect.apply, Context.withMemory, found, target_eq, Memory.lookupSlot,
        Memory.lookup_write, if_pos]

/-- Lists are no part of what operands evaluate to. -/
theorem evaluate_slot (operand : Operand) (handle : ListHandle) (index : Nat)
    (address : Option Address) (context : Context) :
    operand.evaluate ((Effect.slot handle index address).apply context) =
      operand.evaluate context := by
  cases operand <;> rfl

end Operand

theorem Scope.get?_point (scope : Scope) (index : UInt64) (target : Option Address) :
    ∃ binding, (scope.point index target).vars.get? index.toNat = some binding ∧
      binding.target = target := by
  refine ⟨_, Table.get?_set_self _ _ _, ?_⟩
  cases scope.vars.get? index.toNat <;> rfl

namespace Machine

variable {host : Host} {machine : Machine}

/-! ## Round trips -/

/-- An address that an instruction has stored to a place is what a pointer is bound to that is made
from the place. -/
theorem exists_run_makePointer {opcode : Opcode} {operands : List Operand} {target : UInt64}
    {place : Operand} {slot : Option Address}
    (continues : machine.ContinuesWith
      [(opcode, operands), (.makePointer, [.variable target, place])])
    (small : ∀ address, slot = some address → address.index ≤ Binary64.exactBound)
    (isPlace : place.IsPlace machine.current.scope)
    (stores : ∀ effect,
      place.Receives machine.current.scope (.ofAddress slot) effect → effect ≠ .none →
        ∀ instruction : Instruction, instruction.Is opcode operands →
          (instruction.perform host machine.current.depth).Achieves machine.context effect .next) :
    ∃ effect middle last after,
      place.Receives machine.current.scope (.ofAddress slot) effect ∧
        machine.context.PaddedTo middle ∧ (effect.apply middle).PaddedTo last ∧
        machine.run host 2 = .running after ∧
        after.context = (Effect.pointer target slot).apply last := by
  have code_small : (Address.code slot).natAbs ≤ Binary64.exactBound := by
    cases slot with
    | none => exact Nat.zero_le _
    | some address => exact small address rfl
  rcases isPlace.keeps code_small with ⟨effect, receives, not_dropped, keeps⟩
  rw [← Address.ofAddress_eq_number] at receives
  rcases exists_step host continues (stores effect receives not_dropped) with
    ⟨middle, next, padded, stepped, context_eq, continues⟩
  rcases keeps middle padded.scope_eq with ⟨loaded, raw, evaluated, converted, raw_eq⟩
  rw [← context_eq] at evaluated
  have place_ne : place ≠ .none := by
    rintro rfl
    cases isPlace
  rcases exists_step host continues fun instruction is =>
      is.achieves_makePointer host _ place_ne evaluated converted with
    ⟨last, after, padded', stepped', after_eq, -⟩
  rw [context_eq] at padded'
  rw [Address.ofRaw?_eq raw_eq] at after_eq
  have runs := (run_succ ((run_one machine).trans stepped)).trans stepped'
  exact ⟨effect, middle, last, after, receives, padded, padded', runs, after_eq⟩

/-- A variable that was made a pointer is bound to its target. -/
theorem exists_pointer_of_context_eq {target : UInt64} {slot : Option Address} {last : Context}
    (context_eq : machine.context = (Effect.pointer target slot).apply last) :
    ∃ pointer, machine.current.scope.vars.get? target.toNat = some pointer ∧
      pointer.target = slot := by
  have scope_eq : machine.current.scope = last.scope.point target slot :=
    congrArg Context.scope context_eq
  rw [scope_eq]
  exact last.scope.get?_point target slot

/-- A pointer is made from the address of a variable by way of a place. -/
theorem exists_run_makePointer_loadAddress {source target : UInt64} {place : Operand}
    {binding : Binding Address}
    (continues : machine.ContinuesWith
      [(.loadAddress, [place, .variable source]), (.makePointer, [.variable target, place])])
    (bound : machine.current.scope.vars.get? source.toNat = some binding)
    (small : ∀ address, binding.target = some address → address.index ≤ Binary64.exactBound)
    (isPlace : place.IsPlace machine.current.scope) :
    ∃ after pointer, machine.run host 2 = .running after ∧
      after.current.scope.vars.get? target.toNat = some pointer ∧
      pointer.target = binding.target := by
  rcases exists_run_makePointer continues small isPlace fun effect receives not_dropped
      instruction is => is.achieves_loadAddress host _ bound receives not_dropped with
    ⟨effect, middle, last, after, -, -, -, runs, after_eq⟩
  rcases exists_pointer_of_context_eq after_eq with ⟨pointer, found, target_eq⟩
  exact ⟨after, pointer, runs, found, target_eq⟩

/-- A register comes back from a slot of a list, as zero if it was negative. -/
theorem exists_run_listSlotAddress_setListSlot {list : UInt64} {index : Operand}
    {source target : UInt8} {handle : ListHandle} {position : Nat}
    (continues : machine.ContinuesWith
      [(.setListSlot, [.variable list, index, .register source]),
        (.listSlotAddress, [.register target, .variable list, index])])
    (evaluated : (Operand.variable list).evaluate machine.context = .ok (.list handle))
    (indexes : index.Indexes machine.context position)
    (small : (machine.shared.registers.get source).toInt ≤ Binary64.exactBound) :
    ∃ after, machine.run host 2 = .running after ∧
      (after.shared.registers.get target).toInt =
        max (machine.shared.registers.get source).toInt 0 := by
  have code_eq := Address.code_ofRaw?_toInt64 small
  -- What the register becomes matters by its code only.
  generalize raw_eq : (Binary64.ofInt (machine.shared.registers.get source).toInt).toInt64 = raw
    at code_eq
  have loaded_eq : (Operand.register source).evaluate machine.context =
      .ok (.number (.ofInt (machine.shared.registers.get source).toInt)) := rfl
  have converted : (Value.number (.ofInt (machine.shared.registers.get source).toInt)).toLong =
      .ok raw := congrArg Except.ok raw_eq
  rcases exists_step host continues fun instruction is =>
      is.achieves_setListSlot host _ evaluated indexes loaded_eq converted with
    ⟨middle, next, padded, stepped, context_eq, continues⟩
  have evaluate_eq (operand : Operand) :
      operand.evaluate next.context = operand.evaluate machine.context := by
    rw [context_eq, Operand.evaluate_slot, Operand.evaluate_of_paddedTo padded]
  have indexes' : index.Indexes next.context position := by
    rw [Operand.Indexes, evaluate_eq]
    exact indexes
  have slot_eq : next.context.shared.memory.slot handle (min position Operand.lastIndex) =
      Address.ofRaw? raw := by
    rw [context_eq]
    exact Memory.slot_setSlot_self _ _ _ _
  have receives : (Operand.register target).Receives next.context.scope
      (.ofAddress (next.context.shared.memory.slot handle (min position Operand.lastIndex)))
      (.register target (Binary64.ofInt (Address.code (Address.ofRaw? raw))).toInt64) := by
    rw [slot_eq, Address.ofAddress_eq_number]
    exact .register rfl
  rcases exists_step host continues fun instruction is =>
      is.achieves_listSlotAddress host _ ((evaluate_eq _).trans evaluated) indexes' receives
        (by simp) with
    ⟨last, after, -, stepped', after_eq, -⟩
  refine ⟨after, (run_succ ((run_one machine).trans stepped)).trans stepped', ?_⟩
  have code_small : (Address.code (Address.ofRaw? raw)).natAbs ≤ Binary64.exactBound := by omega
  have loaded : after.context.shared.registers.get target =
      (Binary64.ofInt (Address.code (Address.ofRaw? raw))).toInt64 := by
    rw [after_eq, Effect.apply, Registers.get_set, if_pos rfl]
  change (after.context.shared.registers.get target).toInt = _
  rw [loaded, Binary64.toInt_toInt64_ofInt code_small, code_eq]

/-- A pointer that is made from the address of a variable is bound as the variable is, through a
register as well as through any variable with a cell, the first one included.  What is set in a list
from a register is found there as the address that it stands for. -/
theorem address_round_trip (host : Host) (machine : Machine) :
    (∀ (source target : UInt64) (place : Operand) (binding : Binding Address),
      machine.ContinuesWith
        [(.loadAddress, [place, .variable source]), (.makePointer, [.variable target, place])] →
      machine.current.scope.vars.get? source.toNat = some binding →
      (∀ address, binding.target = some address → address.index ≤ Binary64.exactBound) →
      place.IsPlace machine.current.scope →
      ∃ after pointer, machine.run host 2 = .running after ∧
        after.current.scope.vars.get? target.toNat = some pointer ∧
        pointer.target = binding.target) ∧
    ∀ (list : UInt64) (index : Operand) (source target : UInt8) (handle : ListHandle)
      (position : Nat),
      machine.ContinuesWith
        [(.setListSlot, [.variable list, index, .register source]),
          (.listSlotAddress, [.register target, .variable list, index])] →
      (Operand.variable list).evaluate machine.context = .ok (.list handle) →
      index.Indexes machine.context position →
      (machine.shared.registers.get source).toInt ≤ Binary64.exactBound →
      ∃ after, machine.run host 2 = .running after ∧
        (after.shared.registers.get target).toInt =
          max (machine.shared.registers.get source).toInt 0 := by
  constructor
  · intro source target place binding continues bound small isPlace
    exact exists_run_makePointer_loadAddress continues bound small isPlace
  · intro list index source target handle position continues evaluated indexes small
    exact exists_run_listSlotAddress_setListSlot continues evaluated indexes small

/-- A program that writes the address of a variable into the variable's own cell, and takes a
register through a list into the register itself. -/
def aliasingProgram : Program where
  imports := []
  constants := []
  vars := [⟨0, "result", .exported⟩, ⟨1, "list", .hidden⟩]
  functions := [⟨0, "main", .exported⟩]
  instructions := #[
    .make .label [.label 0],
    .make .loadAddress [.variable 0, .variable 0],
    .make .makePointer [.variable 0, .variable 0],
    .make .newList [.variable 1],
    .make .move [.register 3, .literal (.number .one)],
    .make .setListSlot [.variable 1, .register 3, .register 3],
    .make .listSlotAddress [.register 3, .variable 1, .register 3]]

theorem address_round_trip_aliasingProgram :
    ∃ initial before between after final pointer,
      (Engine.ofProgram aliasingProgram).start Engine.mainEntry none true = .running initial ∧
        initial.run Host.empty 1 = .running before ∧ before.run Host.empty 2 = .running between ∧
        between.current.scope.vars.get? 0 = some pointer ∧
        pointer.target = some ⟨1, Nat.one_pos⟩ ∧
        between.run Host.empty 2 = .running after ∧ after.run Host.empty 2 = .running final ∧
        (final.shared.registers.get 3).toInt = 1 := by
  have states : ∃ initial before between after,
      (Engine.ofProgram aliasingProgram).start Engine.mainEntry none true = .running initial ∧
        initial.run Host.empty 1 = .running before ∧ before.run Host.empty 2 = .running between ∧
        between.run Host.empty 2 = .running after ∧
        before.current.program = aliasingProgram ∧ before.current.offset = 1 ∧
        before.current.scope.vars.get? 0 =
          some ⟨"result", .exported, some ⟨1, Nat.one_pos⟩⟩ ∧
        after.current.program = aliasingProgram ∧ after.current.offset = 5 ∧
        (Operand.variable 1).evaluate after.context = .ok (.list ⟨0⟩) ∧
        after.shared.registers.get 3 = 1 :=
    ⟨_, _, _, _, rfl, rfl, rfl, rfl, rfl, rfl, rfl, rfl, rfl, rfl, by decide +kernel⟩
  rcases states with ⟨initial, before, between, after, starts, runs, runs', runs'', program_eq,
    offset_eq, bound, program_eq', offset_eq', evaluated, register_eq⟩
  have continues : before.ContinuesWith
      [(.loadAddress, [.variable 0, .variable 0]), (.makePointer, [.variable 0, .variable 0])] := by
    rw [ContinuesWith, program_eq, offset_eq]
    refine ⟨⟨_, rfl, rfl, ?_⟩, ⟨_, rfl, rfl, ?_⟩, trivial⟩ <;> rintro (_ | _ | _) _ ⟨⟩ <;> rfl
  have continues' : after.ContinuesWith
      [(.setListSlot, [.variable 1, .register 3, .register 3]),
        (.listSlotAddress, [.register 3, .variable 1, .register 3])] := by
    rw [ContinuesWith, program_eq', offset_eq']
    refine ⟨⟨_, rfl, rfl, ?_⟩, ⟨_, rfl, rfl, ?_⟩, trivial⟩ <;> rintro (_ | _ | _ | _) _ ⟨⟩ <;> rfl
  have small : ∀ address : Address, some ⟨1, Nat.one_pos⟩ = some address →
      address.index ≤ Binary64.exactBound := by
    rintro _ ⟨⟩
    decide
  have isPlace : (Operand.variable 0).IsPlace before.current.scope :=
    .cell (Option.bind_eq_some_iff.mpr ⟨_, bound, rfl⟩)
  have indexes : (Operand.register 3).Indexes after.context 1 := by
    apply Operand.Indexes.of_number
    rw [Operand.evaluate, context, register_eq]
    rfl
  rcases (address_round_trip Host.empty before).1 0 0 (.variable 0) _ continues bound small isPlace
    with ⟨_, pointer, reached, found, target_eq⟩
  cases runs'.symm.trans reached
  rcases (address_round_trip Host.empty after).2 1 (.register 3) 3 3 ⟨0⟩ 1 continues' evaluated
    indexes (by rw [register_eq]; decide) with ⟨final, reached', final_eq⟩
  rw [register_eq] at final_eq
  exact ⟨initial, before, between, after, final, pointer, starts, runs, runs', found, target_eq,
    runs'', reached', final_eq⟩

end Machine

end ScriptMachine
