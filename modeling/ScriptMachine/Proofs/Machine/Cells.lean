import ScriptMachine.Proofs.Machine.Sequences

/-!
# Instructions on cells

What the instructions do that work on one cell: those that update it by another value, and the one
that negates it.  A machine that comes upon such an instruction goes on behind it if the operation
has a result, and the cell holds the result.
-/

namespace ScriptMachine

/-! ## Operands that name cells -/

namespace Operand

variable {context : Context} {operand : Operand} {address : Address}

theorem evaluate_of_cell? (named : operand.cell? context.scope = some address) :
    operand.evaluate context = .ok (context.shared.memory.lookup address) := by
  cases operand with
  | none | literal | register | label => cases named
  | «variable» index =>
      rcases Option.bind_eq_some_iff.mp named with ⟨binding, bound, target_eq⟩
      simp only [evaluate, bound, target_eq, Memory.lookupSlot]
  | rawAddress raw =>
      rw [cell?] at named
      simp only [evaluate, named, Memory.lookupSlot]

/-- Writing a cell does not matter to operands that name other cells or none. -/
theorem evaluate_cell_of_ne (value : Value) (other : operand.cell? context.scope ≠ some address) :
    operand.evaluate ((Effect.cell address value).apply context) = operand.evaluate context := by
  have lookupSlot_eq {slot : Option Address} (slot_ne : slot ≠ some address) :
      (context.shared.memory.write address value).lookupSlot slot =
        context.shared.memory.lookupSlot slot := by
    cases slot with
    | none => rfl
    | some cell =>
        rw [Memory.lookupSlot, Memory.lookup_write, if_neg fun same => slot_ne (congrArg some same)]
        rfl
  cases operand with
  | none | literal | register | label => rfl
  | «variable» index =>
      cases bound : context.scope.vars.get? index.toNat with
      | none => simp only [evaluate, Effect.apply, Context.withMemory, bound]
      | some binding =>
          have slot_ne : binding.target ≠ some address := by
            rwa [cell?, bound] at other
          simp only [evaluate, Effect.apply, Context.withMemory, bound, lookupSlot_eq slot_ne]
  | rawAddress raw => exact congrArg Except.ok (lookupSlot_eq other)

end Operand

/-! ## Instructions -/

/-- The arithmetic operation of an opcode. -/
inductive Opcode.Updates : Opcode → (Value → Value → Except Mismatch Value) → Prop where
  | add : Updates .add Value.add
  | subtract : Updates .subtract Value.subtract
  | multiply : Updates .multiply Value.multiply
  | divide : Updates .divide Value.divide

namespace Instruction

variable {context : Context} {address : Address} {target source : Operand}
  {operation : Value → Value → Except Mismatch Value} {operand result : Value}

theorem achieves_update (named : target.cell? context.scope = some address)
    (evaluated : source.evaluate context = .ok operand)
    (operates : operation (context.shared.memory.lookup address) operand = .ok result) :
    (update operation target source).Achieves context (.cell address result) () := by
  apply (Operand.achieves_load (Operand.evaluate_of_cell? named)).bind
  intro afterTarget padded
  rw [← Operand.evaluate_of_paddedTo padded] at evaluated
  apply (Operand.achieves_load evaluated).bind
  intro afterSource padded'
  rw [← (padded.trans padded').scope_eq] at named
  rw [operates]
  exact Operand.achieves_store (.cell named) (by simp)

theorem achieves_negate {integer : Int32} (named : target.cell? context.scope = some address)
    (converted : (context.shared.memory.lookup address).toInteger = .ok integer) :
    (negate target).Achieves context (.cell address (.ofBool (integer ≤ 0))) () := by
  apply (Operand.achieves_conversion (Operand.evaluate_of_cell? named) converted).bind
  intro after padded
  rw [← padded.scope_eq] at named
  exact Operand.achieves_store (.cell named) (by simp)

variable (host : Host) (depth : Nat) {instruction : Instruction} {opcode : Opcode}

theorem Is.achieves_update (is : instruction.Is opcode [target, source])
    (updates : opcode.Updates operation) (named : target.cell? context.scope = some address)
    (evaluated : source.evaluate context = .ok operand)
    (operates : operation (context.shared.memory.lookup address) operand = .ok result) :
    (instruction.perform host depth).Achieves context (.cell address result) .next := by
  have achieves :
      (do update operation target source; return Flow.next : Task Context Flow).Achieves context
        (.cell address result) .next :=
    (Instruction.achieves_update named evaluated operates).then_pure
  rw [perform, is.opcode_eq, is.operand_eq 0 _ rfl, is.operand_eq 1 _ rfl]
  cases updates <;> exact achieves

theorem Is.achieves_negate {integer : Int32} (is : instruction.Is .not [target])
    (named : target.cell? context.scope = some address)
    (converted : (context.shared.memory.lookup address).toInteger = .ok integer) :
    (instruction.perform host depth).Achieves context (.cell address (.ofBool (integer ≤ 0)))
      .next := by
  rw [perform, is.opcode_eq, is.operand_eq 0 _ rfl]
  exact (Instruction.achieves_negate named converted).then_pure

end Instruction

/-! ## Machines -/

namespace Machine

variable (host : Host) {machine : Machine}

/-- The next instruction takes a cell and a value. -/
inductive Applies (machine : Machine) (opcode : Opcode) (address : Address) (operand : Value) :
    Prop where
  | intro {target source : Operand} (continues : machine.ContinuesWith [(opcode, [target, source])])
      (named : target.cell? machine.current.scope = some address)
      (evaluated : source.evaluate machine.context = .ok operand) :
      Applies machine opcode address operand

theorem lookup_of_cell {middle : Context} {address : Address} {value : Value}
    (context_eq : machine.context = (Effect.cell address value).apply middle) :
    machine.shared.memory.lookup address = value := by
  have lookup_eq := congrArg (fun context => context.shared.memory.lookup address) context_eq
  simpa only [context, Effect.apply, Context.withMemory, Memory.lookup_write, if_pos] using lookup_eq

/-- An operation that has a result updates the cell. -/
theorem Applies.exists_step {opcode : Opcode} {address : Address} {operand result : Value}
    {operation : Value → Value → Except Mismatch Value}
    (applies : machine.Applies opcode address operand) (updates : opcode.Updates operation)
    (operates : operation (machine.shared.memory.lookup address) operand = .ok result) :
    ∃ next, machine.step host = .running next ∧ next.shared.memory.lookup address = result := by
  rcases applies with ⟨continues, named, evaluated⟩
  obtain ⟨middle, next, -, stepped, context_eq, -⟩ :=
    Machine.exists_step host continues fun instruction is =>
      is.achieves_update host machine.current.depth updates named evaluated operates
  exact ⟨next, stepped, lookup_of_cell context_eq⟩

end Machine

end ScriptMachine
