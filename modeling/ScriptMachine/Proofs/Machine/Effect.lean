import ScriptMachine.Machine.Perform
import ScriptMachine.Proofs.Machine.Inspection

/-!
# Effects of instructions

What an instruction does to its context, said once for all opcodes.  An instruction that
succeeds lets the memory grow and then has at most one effect; one that faults only lets the
memory grow.  `Instruction.Does` relates an instruction to its effect and to how execution
goes on, with all conditions under which it does so, and `Instruction.Refuses` to the faults
that it can raise.

That every performance is of this kind is `Instruction.perform_acts`; what programs can and
cannot do to their machine follows from it without another look at the opcodes.
-/

namespace ScriptMachine

/-! ## Effects -/

/-- One change of a context. -/
inductive Effect where
  | none
  /-- A register is set. -/
  | register (index : UInt8) (raw : Int64)
  /-- A cell is written. -/
  | cell (address : Address) (value : Value)
  /-- A variable is bound. -/
  | pointer (index : UInt64) (target : Option Address)
  /-- A slot of a list is set. -/
  | slot (handle : ListHandle) (index : Nat) (address : Option Address)

/-- The scope with a variable bound elsewhere; a new variable is anonymous. -/
def Scope.point (scope : Scope) (index : UInt64) (target : Option Address) : Scope :=
  let binding :=
    match scope.vars.get? index.toNat with
    | some binding => { binding with target := target }
    | none => .anonymous target
  { scope with vars := scope.vars.set index.toNat binding }

/-- The context after an effect. -/
def Effect.apply : Effect → Context → Context
  | .none, context => context
  | .register index raw, context =>
      { context with shared.registers := context.shared.registers.set index raw }
  | .cell address value, context =>
      context.withMemory (context.shared.memory.write address value)
  | .pointer index target, context =>
      { context with scope := context.scope.point index target }
  | .slot handle index address, context =>
      context.withMemory (context.shared.memory.setSlot handle index address)

/-- The effect of storing a value to an operand. -/
inductive Operand.Receives (scope : Scope) : Operand → Value → Effect → Prop where
  | register {index : UInt8} {value : Value} {raw : Int64} (converted : value.toLong = .ok raw) :
      Receives scope (.register index) value (.register index raw)
  | cell {operand : Operand} {value : Value} {address : Address}
      (named : operand.cell? scope = some address) :
      Receives scope operand value (.cell address value)
  /-- Null drops the value. -/
  | null {operand : Operand} {value : Value} (named : operand.cell? scope = Option.none)
      (isPlace : (∃ index, operand = .variable index) ∨ ∃ raw, operand = .rawAddress raw) :
      Receives scope operand value .none

/-! ## What instructions do -/

/-- The values that instructions make without a list or an object. -/
def Value.IsPlain : Value → Prop
  | .none | .integer _ | .number _ | .text _ => True
  | _ => False

theorem Value.isPlain_ofLiteral (literal : Literal) : (ofLiteral literal).IsPlain := by
  cases literal <;> trivial

/-- The opcodes that store a value to the first operand and go on. -/
def Opcode.stores : Opcode → Bool
  | .nop | .label | .makePointer | .setListSlot | .jump | .jumpIfTrue | .call | .ret => false
  | _ => true

/-- What a callee operand names: a function value names itself, and a text what it is
registered for. -/
inductive Operand.Names (context : Context) (callee : Operand) : Linked → Prop where
  | text {name : String} {linked : Linked} (evaluated : callee.evaluate context = .ok (.text name))
      (registered : context.shared.registry.get? name = some linked) : Names context callee linked
  | native {id : NativeId} (evaluated : callee.evaluate context = .ok (.nativeFunction id)) :
      Names context callee (.native id)
  | function {reference : FunctionReference}
      (evaluated : callee.evaluate context = .ok (.function reference)) :
      Names context callee (.library reference)

namespace Instruction

variable (instruction : Instruction) (host : Host) (depth : Nat) (context : Context)

/-- A value that an instruction stores. -/
inductive Gives : Value → Prop where
  | plain {value : Value} (isPlain : value.IsPlain) : Gives value
  | new {value : Value} (newTo : value.NewTo context.shared.memory) : Gives value
  | copy {value : Value} (evaluated : (instruction.operand 1).evaluate context = .ok value) :
      Gives value

/-- The label that a jump asks for when it is taken. -/
inductive Jumps : UInt64 → Prop where
  | jump {label : UInt64} (opcode_eq : instruction.opcode = .jump)
      (operand_eq : instruction.operand 0 = .label label) : Jumps label
  | jumpIfTrue {label : UInt64} {value : Value} {number : Binary64}
      (opcode_eq : instruction.opcode = .jumpIfTrue)
      (evaluated : (instruction.operand 0).evaluate context = .ok value)
      (converted : value.toDouble = .ok number) (positive : number.positive = true)
      (operand_eq : instruction.operand 1 = .label label) : Jumps label

/-- How execution goes on with a call. -/
inductive Calls : Flow → Prop where
  | label {label : UInt64} {offset : Nat} (operand_eq : instruction.operand 1 = .label label)
      (bound : context.scope.labelOffset? label = some offset)
      (depth_lt : depth + 1 < host.maxDepth) : Calls (.callLabel offset)
  | library {reference : FunctionReference} {library : Library}
      (named : (instruction.operand 1).Names context (.library reference))
      (loaded : context.shared.libraries.get? reference.library = some library)
      (depth_lt : depth + 1 < host.maxDepth) : Calls (.callLibrary library.program reference.label)
  | native {id : NativeId} {name : String} {function : NativeFunction}
      (named : (instruction.operand 1).Names context (.native id))
      (registered : host.native? id = some function) :
      Calls (.callNative name id function context.arguments)

/-- What an instruction that succeeds does, and how execution goes on after it. -/
inductive Does : Flow → Effect → Prop where
  | nothing (opcode_eq : instruction.opcode = .nop ∨ instruction.opcode = .label) :
      Does .next .none
  | store {value : Value} {effect : Effect} (stores : instruction.opcode.stores = true)
      (gives : instruction.Gives context value)
      (receives : (instruction.operand 0).Receives context.scope value effect) :
      Does .next effect
  | newPointer {index : UInt64} {address : Address}
      (opcode_eq : instruction.opcode = .makePointer)
      (target_eq : instruction.operand 0 = .variable index)
      (source_eq : instruction.operand 1 = .none)
      (new : address.index = context.shared.memory.size) :
      Does .next (.pointer index (some address))
  | pointer {index : UInt64} {value : Value} {raw : Int64}
      (opcode_eq : instruction.opcode = .makePointer)
      (target_eq : instruction.operand 0 = .variable index)
      (source_ne : instruction.operand 1 ≠ .none)
      (evaluated : (instruction.operand 1).evaluate context = .ok value)
      (converted : value.toLong = .ok raw) : Does .next (.pointer index (Address.ofRaw? raw))
  | slot {handle : ListHandle} {indexValue addressValue : Value} {integer : Int32} {index : Nat}
      {raw : Int64} (opcode_eq : instruction.opcode = .setListSlot)
      (evaluated : (instruction.operand 0).evaluate context = .ok (.list handle))
      (index_evaluated : (instruction.operand 1).evaluate context = .ok indexValue)
      (index_converted : indexValue.toInteger = .ok integer) (index_eq : integer.toInt = index)
      (address_evaluated : (instruction.operand 2).evaluate context = .ok addressValue)
      (address_converted : addressValue.toLong = .ok raw) :
      Does .next (.slot handle index (Address.ofRaw? raw))
  | jump {label : UInt64} {offset : Nat} (jumps : instruction.Jumps context label)
      (bound : context.scope.labelOffset? label = some offset) : Does (.jump offset) .none
  | pass {value : Value} {number : Binary64} (opcode_eq : instruction.opcode = .jumpIfTrue)
      (evaluated : (instruction.operand 0).evaluate context = .ok value)
      (converted : value.toDouble = .ok number) (not_positive : number.positive = false) :
      Does .next .none
  | call {flow : Flow} (opcode_eq : instruction.opcode = .call)
      (calls : instruction.Calls host depth context flow) : Does flow .none
  | ret {value : Value} (opcode_eq : instruction.opcode = .ret)
      (evaluated : (instruction.operand 0).evaluate context = .ok value) : Does (.ret value) .none

/-- The faults that an instruction can raise. -/
inductive Refuses : Fault → Prop where
  | operand {cause : Fault} (ofOperand : cause.OfOperand) : Refuses cause
  | unknownFunction {name : String} (opcode_eq : instruction.opcode = .call)
      (evaluated : (instruction.operand 1).evaluate context = .ok (.text name))
      (unregistered : context.shared.registry.get? name = none) : Refuses (.unknownFunction name)
  | unknownNativeFunction {id : NativeId} (opcode_eq : instruction.opcode = .call)
      (named : (instruction.operand 1).Names context (.native id))
      (unregistered : host.native? id = none) : Refuses (.unknownNativeFunction id)
  | unknownLibrary {reference : FunctionReference} (opcode_eq : instruction.opcode = .call)
      (named : (instruction.operand 1).Names context (.library reference))
      (unloaded : context.shared.libraries.get? reference.library = none) :
      Refuses (.unknownLibrary reference.library)
  | labelTooDeep {label : UInt64} {offset : Nat} (opcode_eq : instruction.opcode = .call)
      (operand_eq : instruction.operand 1 = .label label)
      (bound : context.scope.labelOffset? label = some offset)
      (depth_ge : host.maxDepth ≤ depth + 1) : Refuses .stackOverflow
  | libraryTooDeep {reference : FunctionReference} {library : Library}
      (opcode_eq : instruction.opcode = .call)
      (named : (instruction.operand 1).Names context (.library reference))
      (loaded : context.shared.libraries.get? reference.library = some library)
      (depth_ge : host.maxDepth ≤ depth + 1) : Refuses .stackOverflow

end Instruction

/-! ### How execution goes on -/

namespace Instruction.Does

variable {instruction : Instruction} {host : Host} {depth : Nat} {context : Context}
  {effect : Effect}

theorem jumps_of_jump {offset : Nat}
    (does : instruction.Does host depth context (.jump offset) effect) :
    ∃ label, instruction.Jumps context label ∧
      context.scope.labelOffset? label = some offset := by
  cases does with
  | jump jumps bound => exact ⟨_, jumps, bound⟩
  | call opcode_eq calls => cases calls

theorem call_of_callLabel {offset : Nat}
    (does : instruction.Does host depth context (.callLabel offset) effect) :
    instruction.opcode = .call ∧ ∃ label, instruction.operand 1 = .label label ∧
      context.scope.labelOffset? label = some offset := by
  cases does with
  | call opcode_eq calls =>
      cases calls with
      | label operand_eq bound depth_lt => exact ⟨opcode_eq, _, operand_eq, bound⟩

theorem call_of_callLibrary {program : Program} {label : UInt64}
    (does : instruction.Does host depth context (.callLibrary program label) effect) :
    instruction.opcode = .call ∧ ∃ reference library,
      (instruction.operand 1).Names context (.library reference) ∧
        context.shared.libraries.get? reference.library = some library ∧
          library.program = program ∧ reference.label = label := by
  cases does with
  | call opcode_eq calls =>
      cases calls with
      | library named loaded depth_lt => exact ⟨opcode_eq, _, _, named, loaded, rfl, rfl⟩

theorem call_of_callNative {name : String} {id : NativeId} {function : NativeFunction}
    {arguments : List Value}
    (does : instruction.Does host depth context (.callNative name id function arguments) effect) :
    instruction.opcode = .call ∧ (instruction.operand 1).Names context (.native id) ∧
      host.native? id = some function := by
  cases does with
  | call opcode_eq calls =>
      cases calls with
      | native named registered => exact ⟨opcode_eq, named, registered⟩

/-- What goes on with the next instruction is neither a return nor a call. -/
theorem opcode_ne_of_next (does : instruction.Does host depth context .next effect) :
    instruction.opcode ≠ .ret ∧ instruction.opcode ≠ .call := by
  cases does with
  | nothing opcode_eq => rcases opcode_eq with opcode_eq | opcode_eq <;> simp [opcode_eq]
  | store stores =>
      constructor <;>
        · intro opcode_eq
          simp [opcode_eq, Opcode.stores] at stores
  | newPointer opcode_eq | pointer opcode_eq | slot opcode_eq | pass opcode_eq =>
      simp [opcode_eq]
  | call opcode_eq calls => cases calls

/-- A jump that is taken does not go on with the next instruction. -/
theorem not_jumps_of_next (does : instruction.Does host depth context .next effect)
    (label : UInt64) : ¬instruction.Jumps context label := by
  intro jumps
  cases jumps with
  | jump jump_eq =>
      cases does with
      | nothing opcode_eq => simp [jump_eq] at opcode_eq
      | store stores => simp [jump_eq, Opcode.stores] at stores
      | newPointer opcode_eq | pointer opcode_eq | slot opcode_eq | pass opcode_eq
      | call opcode_eq => simp [jump_eq] at opcode_eq
  | jumpIfTrue jump_eq evaluated converted positive =>
      cases does with
      | nothing opcode_eq => simp [jump_eq] at opcode_eq
      | store stores => simp [jump_eq, Opcode.stores] at stores
      | newPointer opcode_eq | pointer opcode_eq | slot opcode_eq | call opcode_eq =>
          simp [jump_eq] at opcode_eq
      | pass _ evaluated' converted' not_positive =>
          obtain rfl := Except.ok.inj (evaluated.symm.trans evaluated')
          obtain rfl := Except.ok.inj (converted.symm.trans converted')
          rw [positive] at not_positive
          contradiction

end Instruction.Does

/-! ## Tasks that act -/

/-- From a context that has grown from `origin`, a task lets the memory grow further and then
has one effect; or it refuses. -/
def Task.Acts {α : Type} (task : Task Context α) (origin context : Context)
    (result : α → Effect → Prop) (refusal : Fault → Prop) : Prop :=
  task.Ends context
    (fun value after => ∃ middle effect,
      origin.GrowsTo middle ∧ result value effect ∧ after = effect.apply middle)
    (fun cause after => origin.GrowsTo after ∧ refusal cause)

section Acts

variable {α β : Type} {task : Task Context α} {next : α → Task Context β}
  {origin context : Context} {result : β → Effect → Prop} {refusal : Fault → Prop}

/-- Inspections can come before an action. -/
theorem Task.Inspects.acts_bind {inspected : α → Prop} (growth : origin.GrowsTo context)
    (first : task.Inspects context inspected)
    (ofOperand_imp : ∀ cause, cause.OfOperand → refusal cause)
    (second : ∀ value after, context.PaddedTo after → inspected value →
      (next value).Acts origin after result refusal) :
    (task >>= next).Acts origin context result refusal := by
  apply first.ends_bind second
  intro cause after padded ofOperand
  exact ⟨growth.trans padded.growsTo, ofOperand_imp cause ofOperand⟩

theorem acts_pure {value : β} (growth : origin.GrowsTo context) (holds : result value .none) :
    (pure value : Task Context β).Acts origin context result refusal :=
  (Task.ends_pure value).mpr ⟨context, .none, growth, holds, rfl⟩

theorem acts_throw {cause : Fault} (growth : origin.GrowsTo context) (holds : refusal cause) :
    (throw cause : Task Context β).Acts origin context result refusal :=
  (Task.ends_throw cause).mpr ⟨growth, holds⟩

/-- A change of the context that is an effect. -/
theorem acts_modify {change : Context → Context} {value : β} {effect : Effect}
    (growth : origin.GrowsTo context) (holds : result value effect)
    (change_eq : change context = effect.apply context) :
    (do modify change; return value : Task Context β).Acts origin context result refusal := by
  apply Task.ends_bind.mpr ((Task.ends_modify change).mpr _)
  exact (Task.ends_pure value).mpr ⟨context, effect, growth, holds, change_eq⟩

/-- A result that does not depend on what an action gives. -/
theorem Task.Acts.then_pure {value : β} {acted : α → Effect → Prop}
    (acts : task.Acts origin context acted refusal)
    (holds : ∀ given effect, acted given effect → result value effect) :
    (task >>= fun _ => (pure value : Task Context β)).Acts origin context result refusal := by
  apply Task.ends_bind.mpr
  apply acts.mono
  · rintro given _ ⟨middle, effect, growth, acted, rfl⟩
    exact (Task.ends_pure value).mpr ⟨middle, effect, growth, holds given effect acted, rfl⟩
  · exact fun _ _ refused => refused

end Acts

namespace Operand

variable {origin context : Context}

/-- Storing has the effect that the operand receives. -/
theorem acts_store (operand : Operand) (value : Value) (growth : origin.GrowsTo context) :
    (operand.store value).Acts origin context
      (fun _ effect => operand.Receives origin.scope value effect) Fault.OfOperand := by
  cases operand with
  | none | literal | label => exact acts_throw growth trivial
  | register index =>
      apply Task.Inspects.acts_bind growth (inspects_ofConversion context value.toLong)
        (fun _ ofOperand => ofOperand)
      intro raw after padded converted
      exact (Task.ends_modify _).mpr
        ⟨after, .register index raw, growth.trans padded.growsTo, .register converted, rfl⟩
  | «variable» index =>
      apply Task.Inspects.acts_bind growth (inspects_variableAddress context index)
        (fun _ ofOperand => ofOperand)
      rintro target after padded ⟨binding, bound, rfl⟩
      have grown := growth.trans padded.growsTo
      have named : cell? origin.scope (.variable index) = binding.target := by
        rw [← growth.scope_eq]
        simp [cell?, bound]
      apply Task.ends_within.mpr ((Task.ends_modify _).mpr _)
      cases target_eq : binding.target with
      | none =>
          rw [target_eq] at named
          exact ⟨after, .none, grown, .null named (.inl ⟨index, rfl⟩), rfl⟩
      | some address =>
          rw [target_eq] at named
          exact ⟨after, .cell address value, grown, .cell named, rfl⟩
  | rawAddress raw =>
      have run : ((rawAddress raw).store value).run context =
          (.ok ⟨⟩, context.withMemory
            (context.shared.memory.writeSlot (Address.ofRaw? raw) value)) := rfl
      apply (Task.ends_iff_of_run_ok run).mpr
      cases target_eq : Address.ofRaw? raw with
      | none => exact ⟨context, .none, growth, .null target_eq (.inr ⟨raw, rfl⟩), rfl⟩
      | some address => exact ⟨context, .cell address value, growth, .cell target_eq, rfl⟩

end Operand

end ScriptMachine
