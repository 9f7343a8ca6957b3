import ScriptMachine.Proofs.Binary64.Integers
import ScriptMachine.Proofs.Machine.Effect
import ScriptMachine.Proofs.Machine.Runs

/-!
# Sequences of instructions

What instructions do when they succeed, told forwards.  `Task.Achieves` states that work succeeds
with a value, pads memory and has one effect, and what it takes for that is said of operands and of
the instructions that deal in addresses.  A machine that comes upon such instructions performs them
one after the other, each in the context that the one before has left.

Instructions are given by their opcodes and first operands.  Their other operands and their lines do
not matter.
-/

namespace ScriptMachine

/-! ## Success -/

/-- In a context, a task succeeds with a value, after padding and with one effect. -/
def Task.Achieves {α : Type} (task : Task Context α) (context : Context) (effect : Effect)
    (value : α) : Prop :=
  ∃ middle, context.PaddedTo middle ∧ task.run context = (.ok value, effect.apply middle)

namespace Task

variable {α β : Type} {context : Context} {effect : Effect}

theorem achieves_pure (value : α) :
    (pure value : Task Context α).Achieves context .none value :=
  ⟨context, .refl context, rfl⟩

theorem Achieves.bind {task : Task Context α} {next : α → Task Context β} {value : α} {result : β}
    (first : task.Achieves context .none value)
    (second : ∀ after, context.PaddedTo after → (next value).Achieves after effect result) :
    (task >>= next).Achieves context effect result := by
  rcases first with ⟨middle, padded, run⟩
  rcases second middle padded with ⟨after, padded', run'⟩
  refine ⟨after, padded.trans padded', ?_⟩
  rw [run_bind, run]
  exact run'

/-- What is given after an effect does not change it. -/
theorem Achieves.then_pure {task : Task Context α} {value : α} {result : β}
    (achieves : task.Achieves context effect value) :
    (task >>= fun _ => (pure result : Task Context β)).Achieves context effect result := by
  rcases achieves with ⟨middle, padded, run⟩
  refine ⟨middle, padded, ?_⟩
  rw [run_bind, run]
  rfl

/-- An inspection that gives something pads memory and has no effect. -/
theorem Inspects.achieves {task : Task Context α} {inspected : α → Prop} {value : α}
    (inspects : task.Inspects context inspected) (fst_eq : (task.run context).1 = .ok value) :
    task.Achieves context .none value := by
  have run : task.run context = (.ok value, (task.run context).2) := Prod.ext fst_eq rfl
  exact ⟨_, (inspects.of_run_ok run).1, run⟩

end Task

/-! ## Operands -/

namespace Operand

variable {context : Context} {operand : Operand} {value : Value} {effect : Effect}

theorem achieves_load (evaluated : operand.evaluate context = .ok value) :
    operand.load.Achieves context .none value := by
  have padded := context.shared.memory.paddedTo_extendSlot (operand.cell? context.scope)
  refine ⟨_, .withMemory padded, ?_⟩
  rw [run_load, evaluated]
  rfl

/-- An operand that converts is loaded and converted. -/
theorem achieves_conversion {α : Type} {convert : Value → Except Mismatch α} {result : α}
    (evaluated : operand.evaluate context = .ok value) (converted : convert value = .ok result) :
    (do Task.ofConversion (convert (← operand.load)) : Task Context α).Achieves context .none
      result := by
  apply (achieves_load evaluated).bind
  intro after _
  rw [converted]
  exact Task.achieves_pure result

theorem achieves_loadList {handle : ListHandle}
    (evaluated : operand.evaluate context = .ok (.list handle)) :
    operand.loadList.Achieves context .none handle :=
  achieves_conversion evaluated rfl

/-- What is received is stored.  That null drops a value is left out, because a variable that is not
bound is no null. -/
theorem achieves_store (receives : operand.Receives context.scope value effect)
    (not_dropped : effect ≠ .none) : (operand.store value).Achieves context effect () := by
  refine ⟨context, .refl context, ?_⟩
  cases receives with
  | register converted =>
      simp only [store, Task.run_bind, converted, Task.run_ofConversion_ok]
      rfl
  | cell named =>
      cases operand with
      | «variable» index =>
          rcases Option.bind_eq_some_iff.mp named with ⟨binding, bound, target_eq⟩
          simp only [store, Task.run_bind, run_variableAddress, bound, target_eq]
          rfl
      | rawAddress raw =>
          rw [cell?] at named
          simp only [store, named]
          rfl
      | none | literal | register | label => cases named
  | null => contradiction

theorem achieves_variableAddress {index : UInt64} {binding : Binding Address}
    (bound : context.scope.vars.get? index.toNat = some binding) :
    (variableAddress index).Achieves context .none binding.target := by
  refine ⟨context, .refl context, ?_⟩
  rw [run_variableAddress, bound]
  rfl

/-- An operand stands for an index of a list; what is beyond all 32-bit integers is taken to the
greatest one. -/
def Indexes (context : Context) (operand : Operand) (index : Nat) : Prop :=
  ∃ value integer, operand.evaluate context = .ok value ∧ value.toInteger = .ok integer ∧
    integer.toInt = min (index : Int) Int32.maxValue.toInt

theorem Indexes.of_paddedTo {after : Context} {index : Nat}
    (indexes : operand.Indexes context index) (padded : context.PaddedTo after) :
    operand.Indexes after index := by
  rcases indexes with ⟨value, integer, evaluated, converted, integer_eq⟩
  exact ⟨value, integer, (evaluate_of_paddedTo padded operand).trans evaluated, converted,
    integer_eq⟩

/-- Every natural number stands for itself as an index. -/
theorem Indexes.of_number {index : Nat}
    (evaluated : operand.evaluate context = .ok (.number (.ofInt index))) :
    operand.Indexes context index := by
  refine ⟨_, _, evaluated, rfl, ?_⟩
  have low_le : Int32.minValue.toInt ≤ 0 := by decide
  have high_ge : 0 ≤ Int32.maxValue.toInt := by decide
  rw [Binary64.toInt_toInt32_ofInt]
  omega

/-- The greatest index that operands stand for. -/
def lastIndex : Nat := Int32.maxValue.toInt.toNat

theorem achieves_loadIndex {index : Nat} (indexes : operand.Indexes context index) :
    operand.loadIndex.Achieves context .none (min index lastIndex) := by
  rcases indexes with ⟨value, integer, evaluated, converted, integer_eq⟩
  have last_eq : (lastIndex : Int) = Int32.maxValue.toInt := rfl
  have nonneg : 0 ≤ integer.toInt := by
    rw [integer_eq, ← last_eq]
    omega
  have toNat_eq : integer.toInt.toNat = min index lastIndex := by
    rw [integer_eq, ← last_eq]
    omega
  apply (achieves_conversion evaluated converted).bind
  intro after _
  rw [if_pos nonneg, toNat_eq]
  exact Task.achieves_pure _

end Operand

/-! ## Instructions -/

/-- An instruction has an opcode and begins with operands. -/
structure Instruction.Is (opcode : Opcode) (operands : List Operand) (instruction : Instruction) :
    Prop where
  opcode_eq : instruction.opcode = opcode
  operand_eq : ∀ index operand, operands[index]? = some operand →
    instruction.operand index = operand

namespace Instruction

variable {context : Context} {effect : Effect} {instruction : Instruction}

theorem achieves_makePointer {index : UInt64} {source : Operand} {value : Value} {raw : Int64}
    (source_ne : source ≠ .none) (evaluated : source.evaluate context = .ok value)
    (converted : value.toLong = .ok raw) :
    (makePointer (.variable index) source).Achieves context (.pointer index (Address.ofRaw? raw))
      () := by
  rcases Operand.achieves_conversion evaluated converted with ⟨middle, padded, run⟩
  refine ⟨middle, padded, ?_⟩
  have loaded : source.loadLong.run context = (.ok raw, middle) := run
  cases source with
  | none => contradiction
  | _ =>
      simp only [makePointer, Task.run_bind, map_eq_pure_bind, loaded]
      rfl

theorem achieves_loadAddress {source : UInt64} {target : Operand} {binding : Binding Address}
    (bound : context.scope.vars.get? source.toNat = some binding)
    (receives : target.Receives context.scope (.ofAddress binding.target) effect)
    (not_dropped : effect ≠ .none) :
    (loadAddress target (.variable source)).Achieves context effect () := by
  apply (Operand.achieves_variableAddress bound).bind
  intro after padded
  rw [← padded.scope_eq] at receives
  exact Operand.achieves_store receives not_dropped

theorem achieves_setListSlot {list index address : Operand} {handle : ListHandle} {position : Nat}
    {value : Value} {raw : Int64} (evaluated : list.evaluate context = .ok (.list handle))
    (indexes : index.Indexes context position)
    (address_evaluated : address.evaluate context = .ok value)
    (converted : value.toLong = .ok raw) :
    (setListSlot list index address).Achieves context
      (.slot handle (min position Operand.lastIndex) (Address.ofRaw? raw)) () := by
  apply (Operand.achieves_loadList evaluated).bind
  intro afterList padded
  apply (Operand.achieves_loadIndex (indexes.of_paddedTo padded)).bind
  intro afterIndex padded'
  have address_evaluated :=
    (Operand.evaluate_of_paddedTo (padded.trans padded') address).trans address_evaluated
  apply (Operand.achieves_conversion address_evaluated converted).bind
  intro afterAddress _
  exact ⟨afterAddress, .refl afterAddress, rfl⟩

theorem achieves_listSlotAddress {target list index : Operand} {handle : ListHandle}
    {position : Nat} (evaluated : list.evaluate context = .ok (.list handle))
    (indexes : index.Indexes context position)
    (receives : target.Receives context.scope
      (.ofAddress (context.shared.memory.slot handle (min position Operand.lastIndex))) effect)
    (not_dropped : effect ≠ .none) :
    (listSlotAddress target list index).Achieves context effect () := by
  have stored : (do
      let handle ← list.loadList
      let index ← index.loadIndex
      let address ← pure ((← get).shared.memory.slot handle index)
      target.store (.ofAddress address) : Task Context Unit).Achieves context effect () := by
    apply (Operand.achieves_loadList evaluated).bind
    intro afterList padded
    apply (Operand.achieves_loadIndex (indexes.of_paddedTo padded)).bind
    intro afterIndex padded'
    have padded := padded.trans padded'
    rw [Memory.slot, ← padded.memory.slots_eq, ← padded.scope_eq] at receives
    exact Operand.achieves_store receives not_dropped
  cases index with
  | none =>
      rcases indexes with ⟨_, _, ⟨⟩, converted, -⟩
      cases converted
  | _ => exact stored

/-! ### Performances -/

variable (host : Host) (depth : Nat)

theorem Is.achieves_makePointer {index : UInt64} {source : Operand} {value : Value} {raw : Int64}
    (is : instruction.Is .makePointer [.variable index, source]) (source_ne : source ≠ .none)
    (evaluated : source.evaluate context = .ok value) (converted : value.toLong = .ok raw) :
    (instruction.perform host depth).Achieves context (.pointer index (Address.ofRaw? raw))
      .next := by
  rw [perform, is.opcode_eq, is.operand_eq 0 _ rfl, is.operand_eq 1 _ rfl]
  exact (Instruction.achieves_makePointer source_ne evaluated converted).then_pure

theorem Is.achieves_loadAddress {source : UInt64} {target : Operand} {binding : Binding Address}
    (is : instruction.Is .loadAddress [target, .variable source])
    (bound : context.scope.vars.get? source.toNat = some binding)
    (receives : target.Receives context.scope (.ofAddress binding.target) effect)
    (not_dropped : effect ≠ .none) :
    (instruction.perform host depth).Achieves context effect .next := by
  rw [perform, is.opcode_eq, is.operand_eq 0 _ rfl, is.operand_eq 1 _ rfl]
  exact (Instruction.achieves_loadAddress bound receives not_dropped).then_pure

theorem Is.achieves_setListSlot {list index address : Operand} {handle : ListHandle}
    {position : Nat} {value : Value} {raw : Int64}
    (is : instruction.Is .setListSlot [list, index, address])
    (evaluated : list.evaluate context = .ok (.list handle))
    (indexes : index.Indexes context position)
    (address_evaluated : address.evaluate context = .ok value)
    (converted : value.toLong = .ok raw) :
    (instruction.perform host depth).Achieves context
      (.slot handle (min position Operand.lastIndex) (Address.ofRaw? raw)) .next := by
  rw [perform, is.opcode_eq, is.operand_eq 0 _ rfl, is.operand_eq 1 _ rfl, is.operand_eq 2 _ rfl]
  exact (Instruction.achieves_setListSlot evaluated indexes address_evaluated converted).then_pure

theorem Is.achieves_listSlotAddress {target list index : Operand} {handle : ListHandle}
    {position : Nat} (is : instruction.Is .listSlotAddress [target, list, index])
    (evaluated : list.evaluate context = .ok (.list handle))
    (indexes : index.Indexes context position)
    (receives : target.Receives context.scope
      (.ofAddress (context.shared.memory.slot handle (min position Operand.lastIndex))) effect)
    (not_dropped : effect ≠ .none) :
    (instruction.perform host depth).Achieves context effect .next := by
  rw [perform, is.opcode_eq, is.operand_eq 0 _ rfl, is.operand_eq 1 _ rfl, is.operand_eq 2 _ rfl]
  exact (Instruction.achieves_listSlotAddress evaluated indexes receives not_dropped).then_pure

end Instruction

/-! ## Machines -/

/-- The instructions from an offset on begin with the given ones. -/
def Program.ContinuesWith (program : Program) : Nat → List (Opcode × List Operand) → Prop
  | _, [] => True
  | offset, (opcode, operands) :: rest =>
      (∃ instruction, program.instructions[offset]? = some instruction ∧
        instruction.Is opcode operands) ∧ program.ContinuesWith (offset + 1) rest

namespace Machine

variable (host : Host) {machine : Machine}

/-- The machine comes upon instructions. -/
def ContinuesWith (machine : Machine) (code : List (Opcode × List Operand)) : Prop :=
  machine.current.program.ContinuesWith machine.current.offset code

/-- The first of the instructions that a machine comes upon is performed, and it comes upon the
others. -/
theorem exists_step {opcode : Opcode} {operands : List Operand}
    {rest : List (Opcode × List Operand)} {effect : Effect}
    (continues : machine.ContinuesWith ((opcode, operands) :: rest))
    (achieves : ∀ instruction : Instruction, instruction.Is opcode operands →
      (instruction.perform host machine.current.depth).Achieves machine.context effect .next) :
    ∃ middle next, machine.context.PaddedTo middle ∧ machine.step host = .running next ∧
      next.context = effect.apply middle ∧ next.ContinuesWith rest := by
  rcases continues with ⟨⟨instruction, current, is⟩, others⟩
  rcases achieves instruction is with ⟨middle, padded, run⟩
  have next_eq : machine.next host = (.ok .next, effect.apply middle) := by
    rw [next, Activation.instruction?, current]
    exact run
  refine ⟨middle, (machine.withContext (effect.apply middle)).goTo (machine.current.offset + 1),
    padded, ?_, rfl, others⟩
  rw [step, next_eq]

end Machine

end ScriptMachine
