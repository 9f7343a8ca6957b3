import ScriptMachine.Machine.Operand
import ScriptMachine.Proofs.Memory.Growth
import ScriptMachine.Proofs.Task.Ending

/-!
# Inspecting a context

Before an instruction changes anything it inspects its context: it loads operands, reads
lists and objects and converts what it finds.  All of this leaves a context that differs
from the one before in padding only, also when a conversion is refused, so that what an
operand evaluates to does not depend on what was inspected before it.

`Task.Inspects` says this of a task in one context, together with what holds of its
result.
-/

namespace ScriptMachine

/-! ## Contexts ahead of others -/

namespace Context

/-- The second context is the first with its memory padded. -/
inductive PaddedTo (before : Context) : Context → Prop where
  | withMemory {memory : Memory} (padded : before.shared.memory.PaddedTo memory) :
      PaddedTo before (before.withMemory memory)

/-- The second context is the first with its memory grown. -/
inductive GrowsTo (before : Context) : Context → Prop where
  | withMemory {memory : Memory} (growth : before.shared.memory.GrowsTo memory) :
      GrowsTo before (before.withMemory memory)

variable {before middle after : Context}

theorem PaddedTo.refl (context : Context) : context.PaddedTo context :=
  .withMemory (Memory.PaddedTo.refl context.shared.memory)

theorem PaddedTo.trans (first : before.PaddedTo middle) (second : middle.PaddedTo after) :
    before.PaddedTo after := by
  obtain ⟨firstPadded⟩ := first
  obtain ⟨secondPadded⟩ := second
  exact .withMemory (firstPadded.trans secondPadded)

theorem PaddedTo.memory (padded : before.PaddedTo after) :
    before.shared.memory.PaddedTo after.shared.memory := by
  obtain ⟨padded⟩ := padded
  exact padded

theorem PaddedTo.scope_eq (padded : before.PaddedTo after) : after.scope = before.scope := by
  obtain ⟨_⟩ := padded
  rfl

theorem PaddedTo.growsTo (padded : before.PaddedTo after) : before.GrowsTo after := by
  obtain ⟨padded⟩ := padded
  exact .withMemory padded.growsTo

theorem GrowsTo.refl (context : Context) : context.GrowsTo context :=
  (PaddedTo.refl context).growsTo

theorem GrowsTo.trans (first : before.GrowsTo middle) (second : middle.GrowsTo after) :
    before.GrowsTo after := by
  obtain ⟨firstGrowth⟩ := first
  obtain ⟨secondGrowth⟩ := second
  exact .withMemory (firstGrowth.trans secondGrowth)

theorem GrowsTo.memory (growth : before.GrowsTo after) :
    before.shared.memory.GrowsTo after.shared.memory := by
  obtain ⟨growth⟩ := growth
  exact growth

theorem GrowsTo.scope_eq (growth : before.GrowsTo after) : after.scope = before.scope := by
  obtain ⟨_⟩ := growth
  rfl

theorem GrowsTo.registers_eq (growth : before.GrowsTo after) :
    after.shared.registers = before.shared.registers := by
  obtain ⟨_⟩ := growth
  rfl

theorem GrowsTo.registry_eq (growth : before.GrowsTo after) :
    after.shared.registry = before.shared.registry := by
  obtain ⟨_⟩ := growth
  rfl

theorem GrowsTo.libraries_eq (growth : before.GrowsTo after) :
    after.shared.libraries = before.shared.libraries := by
  obtain ⟨_⟩ := growth
  rfl

end Context

/-- The values that a host function would be passed: what the slots of the list lead to whose
address is in register zero. -/
def Context.arguments (context : Context) : List Value :=
  match Address.ofRaw? (context.shared.registers.get 0) with
  | none => []
  | some address =>
      match context.shared.memory.lookup address with
      | .list handle =>
          (context.shared.memory.slots handle).toList.map context.shared.memory.lookupSlot
      | _ => []

theorem Context.arguments_of_paddedTo {before after : Context} (padded : before.PaddedTo after) :
    after.arguments = before.arguments := by
  obtain ⟨padded⟩ := padded
  have lookupSlot_eq : Memory.lookupSlot _ = before.shared.memory.lookupSlot :=
    funext padded.lookupSlot_eq
  simp only [arguments, withMemory, padded.lookup_eq, padded.slots_eq, lookupSlot_eq]

/-! ## What operands stand for -/

/-- The faults of operands that are of the wrong kind, unbound or not convertible. -/
def Fault.OfOperand : Fault → Prop
  | .typeMismatch _ | .unsupportedOperand _ | .unboundVariable _ | .unboundLabel _
  | .invalidListIndex _ => True
  | _ => False

/-- The offset at which a label is bound. -/
def Scope.labelOffset? (scope : Scope) (label : UInt64) : Option Nat :=
  (scope.labels.get? label.toNat).bind Binding.target

namespace Operand

/-- The cell that an operand names, unless it names none or null. -/
def cell? (scope : Scope) : Operand → Option Address
  | .variable index => (scope.vars.get? index.toNat).bind Binding.target
  | .rawAddress raw => Address.ofRaw? raw
  | _ => .none

/-- The value of an operand in a context. -/
def evaluate (context : Context) (operand : Operand) : Except Fault Value :=
  match operand with
  | .none => .ok .none
  | .literal value => .ok (.ofLiteral value)
  | .register index => .ok (.number (.ofInt (context.shared.registers.get index).toInt))
  | .variable index =>
      match context.scope.vars.get? index.toNat with
      | some binding => .ok (context.shared.memory.lookupSlot binding.target)
      | .none => .error (.unboundVariable index)
  | .rawAddress raw => .ok (context.shared.memory.lookupSlot (Address.ofRaw? raw))
  | .label _ => .error (.unsupportedOperand operand)

/-- An operand evaluates to the same before and after padding. -/
theorem evaluate_of_paddedTo {before after : Context} (padded : before.PaddedTo after)
    (operand : Operand) : operand.evaluate after = operand.evaluate before := by
  obtain ⟨padded⟩ := padded
  cases operand with
  | none | literal | register | label => rfl
  | «variable» index =>
      simp only [evaluate, Context.withMemory]
      cases before.scope.vars.get? index.toNat with
      | none => rfl
      | some binding => exact congrArg Except.ok (padded.lookupSlot_eq binding.target)
  | rawAddress raw => exact congrArg Except.ok (padded.lookupSlot_eq (Address.ofRaw? raw))

theorem ofOperand_of_evaluate {context : Context} {operand : Operand} {cause : Fault}
    (refused : operand.evaluate context = .error cause) : cause.OfOperand := by
  cases operand with
  | none | literal | register | rawAddress => simp [evaluate] at refused
  | label =>
      obtain rfl := Except.error.inj refused
      trivial
  | «variable» index =>
      simp only [evaluate] at refused
      split at refused
      · contradiction
      · obtain rfl := Except.error.inj refused
        trivial

theorem run_variableAddress (index : UInt64) (context : Context) :
    (variableAddress index).run context =
      match context.scope.vars.get? index.toNat with
      | some binding => (.ok binding.target, context)
      | .none => (.error (.unboundVariable index), context) := by
  simp only [variableAddress, Task.run_bind, Task.run_get]
  cases context.scope.vars.get? index.toNat <;> rfl

/-- Loading an operand gives what it evaluates to and pads its cell. -/
theorem run_load (operand : Operand) (context : Context) :
    operand.load.run context =
      (operand.evaluate context,
        context.withMemory (context.shared.memory.extendSlot (operand.cell? context.scope))) := by
  cases operand with
  | none | literal | register | label | rawAddress => rfl
  | «variable» index =>
      simp only [load, Task.run_bind, run_variableAddress, evaluate, cell?]
      cases context.scope.vars.get? index.toNat <;> rfl

end Operand

/-! ## Tasks that inspect -/

/-- In a context, a task changes nothing but padding, its result is as stated, and it
refuses nothing but operands. -/
def Task.Inspects {α : Type} (task : Task Context α) (context : Context) (result : α → Prop) :
    Prop :=
  task.Ends context (fun value after => context.PaddedTo after ∧ result value)
    (fun cause after => context.PaddedTo after ∧ cause.OfOperand)

namespace Task.Inspects

variable {α β : Type} {task : Task Context α} {next : α → Task Context β} {context : Context}
  {result : α → Prop}

/-- What follows an inspection is judged in a padded context. -/
theorem ends_bind {final : β → Context → Prop} {refusal : Fault → Context → Prop}
    (first : task.Inspects context result)
    (second : ∀ value after, context.PaddedTo after → result value →
      (next value).Ends after final refusal)
    (refused : ∀ cause after, context.PaddedTo after → cause.OfOperand → refusal cause after) :
    (task >>= next).Ends context final refusal := by
  apply Task.ends_bind.mpr (first.mono _ _)
  · rintro value after ⟨padded, holds⟩
    exact second value after padded holds
  · rintro cause after ⟨padded, ofOperand⟩
    exact refused cause after padded ofOperand

theorem bind {final : β → Prop} (first : task.Inspects context result)
    (second : ∀ value after, context.PaddedTo after → result value →
      (next value).Inspects after final) :
    (task >>= next).Inspects context final := by
  apply first.ends_bind _ (fun _ _ padded ofOperand => ⟨padded, ofOperand⟩)
  intro value after padded holds
  apply (second value after padded holds).mono _ _
  · rintro _ _ ⟨padded', holds'⟩
    exact ⟨padded.trans padded', holds'⟩
  · rintro _ _ ⟨padded', ofOperand⟩
    exact ⟨padded.trans padded', ofOperand⟩

theorem weaken {weaker : α → Prop} (inspects : task.Inspects context result)
    (imp : ∀ value, result value → weaker value) : task.Inspects context weaker :=
  inspects.mono (fun value _ ⟨padded, holds⟩ => ⟨padded, imp value holds⟩)
    (fun _ _ refused => refused)

end Task.Inspects

section Inspections

variable {α : Type} (context : Context)

theorem inspects_pure {value : α} {result : α → Prop} (holds : result value) :
    (pure value : Task Context α).Inspects context result :=
  (Task.ends_pure value).mpr ⟨.refl context, holds⟩

theorem inspects_throw {cause : Fault} {result : α → Prop} (ofOperand : cause.OfOperand) :
    (throw cause : Task Context α).Inspects context result :=
  (Task.ends_throw cause).mpr ⟨.refl context, ofOperand⟩

theorem inspects_get : (get : Task Context Context).Inspects context (· = context) :=
  Task.ends_get.mpr ⟨.refl context, rfl⟩

theorem inspects_ofConversion (conversion : Except Mismatch α) :
    (Task.ofConversion conversion : Task Context α).Inspects context
      (conversion = .ok ·) := by
  apply Task.ends_ofConversion.mpr
  constructor
  · intro value converted
    exact ⟨.refl context, converted⟩
  · intro mismatch _
    exact ⟨.refl context, trivial⟩

/-- Reading from memory is an inspection. -/
theorem inspects_onMemory {update : Memory → α × Memory}
    (padded : ∀ memory : Memory, memory.PaddedTo (update memory).2) :
    (Context.onMemory (Task.ofUpdate update)).Inspects context
      (· = (update context.shared.memory).1) := by
  apply Task.ends_within.mpr ((Task.ends_ofUpdate update).mpr _)
  exact ⟨.withMemory (padded _), rfl⟩

/-- Reading from memory what may be refused is an inspection. -/
theorem inspects_onMemory_ofAttempt {attempt : Memory → Except Mismatch α × Memory}
    (padded : ∀ memory : Memory, memory.PaddedTo (attempt memory).2) :
    (Context.onMemory (Task.ofAttempt attempt)).Inspects context
      ((attempt context.shared.memory).1 = .ok ·) := by
  apply Task.ends_within.mpr (Task.ends_bind.mpr ((Task.ends_ofUpdate attempt).mpr _))
  apply Task.ends_ofConversion.mpr
  constructor
  · intro value converted
    exact ⟨.withMemory (padded _), converted⟩
  · intro mismatch _
    exact ⟨.withMemory (padded _), trivial⟩

/-- Finding the list in a cell is an inspection. -/
theorem inspects_listAt (address : Address) :
    (Context.onMemory (Memory.listAt address)).Inspects context
      ((context.shared.memory.lookup address).asList = .ok ·) := by
  apply Task.ends_within.mpr (Task.ends_bind.mpr ((Task.ends_ofUpdate _).mpr _))
  apply Task.ends_ofConversion.mpr
  constructor
  · intro handle converted
    exact ⟨.withMemory (Memory.paddedTo_extend _ address), converted⟩
  · intro mismatch _
    exact ⟨.withMemory (Memory.paddedTo_extend _ address), trivial⟩

/-- Counting the entries of an object is an inspection. -/
theorem inspects_length (object : ObjectCells) :
    (Context.onMemory object.length).Inspects context fun _ => True := by
  apply Task.ends_within.mpr (Task.ends_bind.mpr _)
  have keys := Task.ends_within.mp (inspects_listAt context object.keys)
  apply keys.mono _ (fun _ _ refused => refused)
  rintro handle after ⟨padded, -⟩
  exact Task.ends_bind.mpr (Task.ends_get.mpr ((Task.ends_pure _).mpr ⟨padded, trivial⟩))

namespace Operand

variable (operand : Operand)

/-- Where a variable is bound. -/
theorem inspects_variableAddress (index : UInt64) :
    (variableAddress index).Inspects context fun target =>
      ∃ binding, context.scope.vars.get? index.toNat = some binding ∧
        binding.target = target := by
  apply (inspects_get context).bind _
  rintro _ after padded rfl
  split
  · rename_i binding bound
    exact inspects_pure after ⟨binding, bound, rfl⟩
  · exact inspects_throw after trivial

theorem inspects_load :
    operand.load.Inspects context (operand.evaluate context = .ok ·) := by
  have padded := Memory.paddedTo_extendSlot context.shared.memory (operand.cell? context.scope)
  have run := run_load operand context
  cases evaluated : operand.evaluate context with
  | ok value =>
      rw [evaluated] at run
      exact (Task.ends_iff_of_run_ok run).mpr ⟨.withMemory padded, rfl⟩
  | error cause =>
      rw [evaluated] at run
      exact (Task.ends_iff_of_run_error run).mpr
        ⟨.withMemory padded, ofOperand_of_evaluate evaluated⟩

/-- Loading and converting is an inspection. -/
theorem inspects_load_conversion {α : Type} (convert : Value → Except Mismatch α) :
    (do Task.ofConversion (convert (← operand.load)) : Task Context α).Inspects context
      fun result => ∃ value, operand.evaluate context = .ok value ∧ convert value = .ok result := by
  apply (inspects_load context operand).bind _
  intro value after _ evaluated
  apply (inspects_ofConversion after (convert value)).weaken _
  intro result converted
  exact ⟨value, evaluated, converted⟩

theorem inspects_loadDouble :
    operand.loadDouble.Inspects context fun number =>
      ∃ value, operand.evaluate context = .ok value ∧ value.toDouble = .ok number :=
  inspects_load_conversion context operand Value.toDouble

theorem inspects_loadList :
    operand.loadList.Inspects context fun handle =>
      operand.evaluate context = .ok (.list handle) := by
  apply (inspects_load_conversion context operand Value.asList).weaken _
  rintro handle ⟨value, evaluated, converted⟩
  cases value with
  | list =>
      obtain rfl := Except.ok.inj converted
      exact evaluated
  | _ => contradiction

theorem inspects_loadObject :
    operand.loadObject.Inspects context fun cells =>
      operand.evaluate context = .ok (.object cells) := by
  apply (inspects_load_conversion context operand Value.asObject).weaken
  rintro cells ⟨value, evaluated, converted⟩
  cases value with
  | object =>
      obtain rfl := Except.ok.inj converted
      exact evaluated
  | _ => contradiction

theorem inspects_loadIndex :
    operand.loadIndex.Inspects context fun index => ∃ value integer,
      operand.evaluate context = .ok value ∧ value.toInteger = .ok integer ∧
        integer.toInt = index := by
  apply (inspects_load_conversion context operand Value.toInteger).bind
  rintro integer after - ⟨value, evaluated, converted⟩
  split
  · rename_i nonneg
    exact inspects_pure after ⟨value, integer, evaluated, converted,
      (Int.toNat_of_nonneg nonneg).symm⟩
  · exact inspects_throw after trivial

theorem inspects_address :
    operand.address.Inspects context fun _ => True := by
  cases operand with
  | none | rawAddress => exact inspects_pure context trivial
  | «variable» index => exact (inspects_variableAddress context index).weaken fun _ _ => trivial
  | literal | register | label => exact inspects_throw context trivial

/-- Where a label is bound. -/
theorem inspects_labelOffset :
    operand.labelOffset.Inspects context fun offset =>
      ∃ label, operand = .label label ∧ context.scope.labelOffset? label = some offset := by
  cases operand with
  | label label =>
      apply (inspects_get context).bind _
      rintro _ after padded rfl
      split
      · rename_i offset bound
        exact inspects_pure after ⟨label, rfl, bound⟩
      · exact inspects_throw after trivial
  | _ => exact inspects_throw context trivial

end Operand

end Inspections

end ScriptMachine
