import ScriptMachine.Proofs.Isolation.Confinement
import ScriptMachine.Proofs.Relocation.Correspondence

/-!
# Instructions in corresponding contexts

An instruction that neither names an address nor asks for one does the same in two contexts that
differ in addresses only.  Whether it refuses, how execution goes on and which texts and numbers it
stores depends on values up to their correspondence, and cells that it adds correspond.

Register zero is not looked at, because the address of the arguments is there.  It is read for the
call of a host function, which is not done here.
-/

namespace ScriptMachine

/-! ## Instructions without addresses -/

/-- An operand that neither is an address nor has one. -/
structure Operand.Oblivious (operand : Operand) : Prop where
  not_address : operand.isAddress = false
  not_arguments : operand ≠ .register 0

/-- The opcodes that find out addresses or put them into lists. -/
def Opcode.usesAddresses : Opcode → Bool
  | .loadAddress | .setListSlot | .listSlotAddress | .keysAddress | .valuesAddress => true
  | _ => false

/-- An instruction that has to do with addresses in no way but by names of variables. -/
structure Instruction.Oblivious (instruction : Instruction) : Prop
    extends instruction.AddressFree where
  not_arguments : ∀ operand ∈ instruction.operands, operand ≠ .register 0
  opcode : instruction.opcode.usesAddresses = false

instance (instruction : Instruction) : Decidable instruction.Oblivious :=
  decidable_of_iff
    (instruction.AddressFree ∧ (∀ operand ∈ instruction.operands, operand ≠ .register 0) ∧
      instruction.opcode.usesAddresses = false)
    ⟨fun ⟨addressFree, not_arguments, opcode⟩ => ⟨addressFree, not_arguments, opcode⟩,
      fun ⟨addressFree, not_arguments, opcode⟩ => ⟨addressFree, not_arguments, opcode⟩⟩

/-- A program all of whose instructions are so. -/
def Program.Oblivious (program : Program) : Prop :=
  ∀ instruction ∈ program.instructions, instruction.Oblivious

instance (program : Program) : Decidable program.Oblivious :=
  inferInstanceAs (Decidable (∀ instruction ∈ program.instructions, instruction.Oblivious))

theorem Instruction.Oblivious.operand {instruction : Instruction}
    (oblivious : instruction.Oblivious) (index : Nat) : (instruction.operand index).Oblivious where
  not_address := oblivious.isAddress_operand index
  not_arguments := by
    unfold Instruction.operand
    cases found : instruction.operands[index]? with
    | none => exact nofun
    | some operand => exact oblivious.not_arguments operand (List.mem_of_getElem? found)

theorem Activation.oblivious_instruction {activation : Activation}
    (oblivious : activation.program.Oblivious) : activation.instruction.Oblivious := by
  unfold instruction instruction?
  cases found : activation.program.instructions[activation.offset]? with
  | none => exact ⟨⟨by simp, by simp⟩, by simp, rfl⟩
  | some instruction => exact oblivious instruction (Array.mem_of_getElem? found)

/-! ## Contexts -/

/-- Variables are bound to corresponding cells, and labels are the same. -/
structure Scope.Corresponds (correspondence : Correspondence) (left right : Scope) : Prop where
  vars : ∀ index, Option.Rel
    (fun binding other => Option.Rel correspondence.cells binding.target other.target)
    (left.vars.get? index) (right.vars.get? index)
  labels_eq : left.labels = right.labels

/-- The memories correspond, and the rest is the same but for register zero. -/
structure SharedState.Corresponds (correspondence : Correspondence) (left right : SharedState) :
    Prop where
  memory : left.memory.Corresponds correspondence right.memory
  registers : ∀ index, index ≠ 0 → left.registers.get index = right.registers.get index
  registry_eq : left.registry = right.registry
  libraries_eq : left.libraries = right.libraries

/-- What two runs of one instruction begin with and leave. -/
structure Context.Corresponds (correspondence : Correspondence) (left right : Context) : Prop where
  shared : left.shared.Corresponds correspondence right.shared
  scope : left.scope.Corresponds correspondence right.scope

variable {correspondence : Correspondence} {left right : Context} {operand : Operand}
  {value otherValue : Value}

theorem Task.Alike.onMemory {α β : Type} {results : α → β → Prop} {first : Task Memory α}
    {second : Task Memory β}
    (alike : Task.Alike (Memory.Corresponds correspondence) results first second) :
    Task.Alike (Context.Corresponds correspondence) results (Context.onMemory first)
      (Context.onMemory second) :=
  alike.within (fun _ _ corresponds => corresponds.shared.memory)
    fun _ _ corresponds _ _ memory =>
      ⟨⟨memory, corresponds.shared.registers, corresponds.shared.registry_eq,
        corresponds.shared.libraries_eq⟩, corresponds.scope⟩

/-! ## Operands -/

namespace Operand

theorem alike_variableAddress (index : UInt64) :
    Task.Alike (Context.Corresponds correspondence) (Option.Rel correspondence.cells)
      (variableAddress index) (variableAddress index) := by
  apply Task.alike_get.bind
  intro left right corresponds
  have vars := corresponds.scope.vars index.toNat
  revert vars
  cases left.scope.vars.get? index.toNat <;> cases right.scope.vars.get? index.toNat <;>
    rintro ⟨⟩
  · exact Task.alike_throw _
  · rename_i targets
    exact Task.alike_pure targets

/-- Operands load as corresponding values. -/
theorem alike_load (oblivious : operand.Oblivious) :
    Task.Alike (Context.Corresponds correspondence) (Value.Corresponds correspondence)
      operand.load operand.load := by
  cases operand with
  | none => exact Task.alike_pure Value.corresponds_none
  | literal literal => exact Task.alike_pure (Value.corresponds_ofLiteral literal)
  | label index => exact Task.alike_throw _
  | rawAddress raw => exact absurd oblivious.not_address nofun
  | «variable» index =>
      apply (alike_variableAddress index).bind
      intro slot otherSlot slots
      exact (Memory.alike_readSlot slots).onMemory
  | register index =>
      have not_zero : index ≠ 0 := fun zero => oblivious.not_arguments (congrArg _ zero)
      apply Task.alike_get.bind
      intro left right corresponds
      rw [corresponds.shared.registers index not_zero]
      exact Task.alike_pure (Value.corresponds_number _)

/-- A store changes corresponding cells, or the same register. -/
theorem alike_store (oblivious : operand.Oblivious)
    (values : value.Corresponds correspondence otherValue) :
    Task.Alike (Context.Corresponds correspondence) (fun _ _ => True) (operand.store value)
      (operand.store otherValue) := by
  cases operand with
  | none | literal | label => exact Task.alike_throw _
  | rawAddress raw => exact absurd oblivious.not_address nofun
  | «variable» index =>
      apply (alike_variableAddress index).bind
      intro slot otherSlot slots
      apply Task.Alike.onMemory
      exact Task.alike_modify fun _ _ corresponds => corresponds.writeSlot slots values
  | register index =>
      unfold store
      rw [values.observe_eq Value.indistinct_toLong]
      apply (Task.alike_ofConversion _).bind
      rintro raw _ rfl
      apply Task.alike_modify
      rintro left right ⟨⟨memory, registers, registry_eq, libraries_eq⟩, scope⟩
      refine ⟨⟨memory, ?_, registry_eq, libraries_eq⟩, scope⟩
      intro other not_zero
      rw [Registers.get_set, Registers.get_set, registers other not_zero]

/-- What does not tell new things apart is the same of the values of an operand. -/
theorem alike_load_conversion {α : Type} {convert : Value → Except Mismatch α}
    (oblivious : operand.Oblivious) (indistinct : Value.Indistinct convert) :
    Task.Alike (Context.Corresponds correspondence) Eq
      (do Task.ofConversion (convert (← operand.load)))
      (do Task.ofConversion (convert (← operand.load))) := by
  apply (alike_load oblivious).bind
  intro value otherValue values
  rw [values.observe_eq indistinct]
  exact Task.alike_ofConversion _

theorem alike_loadList (oblivious : operand.Oblivious) :
    Task.Alike (Context.Corresponds correspondence) correspondence.lists operand.loadList
      operand.loadList :=
  (alike_load oblivious).bind fun _ _ values => Memory.alike_asList values

theorem alike_address (oblivious : operand.Oblivious) :
    Task.Alike (Context.Corresponds correspondence) (Option.Rel correspondence.cells)
      operand.address operand.address := by
  cases operand with
  | none => exact Task.alike_pure .none
  | «variable» index => exact alike_variableAddress index
  | rawAddress raw => exact absurd oblivious.not_address nofun
  | literal | register | label => exact Task.alike_throw _

theorem alike_labelOffset (operand : Operand) :
    Task.Alike (Context.Corresponds correspondence) Eq operand.labelOffset operand.labelOffset := by
  cases operand with
  | label index =>
      apply Task.alike_get.bind
      intro left right corresponds
      rw [corresponds.scope.labels_eq]
      cases (right.scope.labels.get? index.toNat).bind Binding.target with
      | none => exact Task.alike_throw _
      | some offset => exact Task.alike_pure rfl
  | _ => exact Task.alike_throw _

end Operand

/-! ## Values of operations -/

namespace Value

/-- An operation on two values that tells neither of them from ones that correspond to it. -/
def Indistinct₂ {α : Type} (operation : Value → Value → α) : Prop :=
  ∀ value, Indistinct (operation value) ∧ Indistinct fun other => operation other value

theorem Indistinct₂.apply_eq {α : Type} {operation : Value → Value → α} {left right : Value}
    {otherLeft otherRight : Value} (indistinct : Indistinct₂ operation)
    (lefts : left.Corresponds correspondence otherLeft)
    (rights : right.Corresponds correspondence otherRight) :
    operation left right = operation otherLeft otherRight :=
  (rights.observe_eq (indistinct left).1).trans (lefts.observe_eq (indistinct otherRight).2)

theorem indistinct_exactlyOrRounded (exact : Int → Int → Int)
    (operation : Binary64 → Binary64 → Binary64) :
    Indistinct₂ (exactlyOrRounded exact operation) := by
  intro value
  cases value <;> exact ⟨⟨fun _ _ => rfl, fun _ _ => rfl⟩, ⟨fun _ _ => rfl, fun _ _ => rfl⟩⟩

theorem indistinct_rounded (operation : Binary64 → Binary64 → Binary64) :
    Indistinct₂ (rounded operation) := by
  intro value
  cases value <;> exact ⟨⟨fun _ _ => rfl, fun _ _ => rfl⟩, ⟨fun _ _ => rfl, fun _ _ => rfl⟩⟩

theorem indistinct_equal : Indistinct₂ equal := by
  intro value
  cases value <;> exact ⟨⟨fun _ _ => rfl, fun _ _ => rfl⟩, ⟨fun _ _ => rfl, fun _ _ => rfl⟩⟩

theorem indistinct_immediatesEqual : Indistinct₂ Instruction.immediatesEqual := by
  intro value
  cases value <;> exact ⟨⟨fun _ _ => rfl, fun _ _ => rfl⟩, ⟨fun _ _ => rfl, fun _ _ => rfl⟩⟩

theorem IsPlain.corresponds (isPlain : value.IsPlain) : value.Corresponds correspondence value := by
  cases value with
  | list | object => exact isPlain.elim
  | _ => exact .same nofun nofun

end Value

/-! ## Instructions -/

namespace Instruction

variable {target source third : Operand}

/-- A new pointer is bound to cells that are added. -/
theorem alike_makePointer (target : Operand) :
    Task.Alike (Context.Corresponds correspondence) (fun _ _ => True)
      (makePointer target .none) (makePointer target .none) := by
  cases target with
  | «variable» index =>
      have allocates : Task.Alike (Memory.Corresponds correspondence) correspondence.cells
          (Task.ofUpdate (·.allocate .none)) (Task.ofUpdate (·.allocate .none)) :=
        Task.alike_ofUpdate fun _ _ corresponds =>
          ⟨corresponds.cells_allocate _ _, corresponds.allocate Value.corresponds_none⟩
      have addresses : Task.Alike (Context.Corresponds correspondence)
          (Option.Rel correspondence.cells)
          (some <$> Context.onMemory (Task.ofUpdate (·.allocate .none)))
          (some <$> Context.onMemory (Task.ofUpdate (·.allocate .none))) :=
        allocates.onMemory.map fun _ _ paired => .some paired
      apply addresses.bind
      intro address other slots
      apply Task.alike_modify
      rintro left right ⟨shared, ⟨vars, labels_eq⟩⟩
      refine ⟨shared, ⟨?_, labels_eq⟩⟩
      intro changed
      simp only [Table.get?_set]
      split
      · have bound := vars index.toNat
        revert bound
        cases left.scope.vars.get? index.toNat <;> cases right.scope.vars.get? index.toNat <;>
          rintro ⟨⟩ <;> exact .some slots
      · exact vars changed
  | _ => exact Task.alike_throw _

theorem alike_convert (operation : Binary64 → Binary64) (target_oblivious : target.Oblivious)
    (source_oblivious : source.Oblivious) :
    Task.Alike (Context.Corresponds correspondence) (fun _ _ => True)
      (convert operation target source) (convert operation target source) := by
  apply (Operand.alike_load_conversion source_oblivious Value.indistinct_toDouble).bind
  rintro number _ rfl
  exact Operand.alike_store target_oblivious (Value.corresponds_number _)

theorem alike_update {operation : Value → Value → Except Mismatch Value}
    (indistinct : Value.Indistinct₂ operation)
    (plain : ∀ left right result, operation left right = .ok result → result.IsPlain)
    (target_oblivious : target.Oblivious) (source_oblivious : source.Oblivious) :
    Task.Alike (Context.Corresponds correspondence) (fun _ _ => True)
      (update operation target source) (update operation target source) := by
  apply (Operand.alike_load target_oblivious).bind
  intro current otherCurrent currents
  apply (Operand.alike_load source_oblivious).bind
  intro value otherValue values
  rw [indistinct.apply_eq currents values]
  cases applied : operation otherCurrent otherValue with
  | error mismatch => exact Task.alike_throw _
  | ok result =>
      exact Operand.alike_store target_oblivious (plain _ _ _ applied).corresponds

theorem alike_updateBits (operation : Int32 → Int32 → Int32) (target_oblivious : target.Oblivious)
    (source_oblivious : source.Oblivious) :
    Task.Alike (Context.Corresponds correspondence) (fun _ _ => True)
      (updateBits operation target source) (updateBits operation target source) := by
  apply (Operand.alike_load_conversion target_oblivious Value.indistinct_toInteger).bind
  rintro current _ rfl
  apply (Operand.alike_load_conversion source_oblivious Value.indistinct_toInteger).bind
  rintro integer _ rfl
  exact Operand.alike_store target_oblivious (Value.corresponds_number _)

theorem alike_negate (target_oblivious : target.Oblivious) :
    Task.Alike (Context.Corresponds correspondence) (fun _ _ => True) (negate target)
      (negate target) := by
  apply (Operand.alike_load_conversion target_oblivious Value.indistinct_toInteger).bind
  rintro integer _ rfl
  exact Operand.alike_store target_oblivious (Value.corresponds_number _)

theorem alike_compare (relation : Binary64 → Binary64 → Bool) (target_oblivious : target.Oblivious)
    (source_oblivious : source.Oblivious) (third_oblivious : third.Oblivious) :
    Task.Alike (Context.Corresponds correspondence) (fun _ _ => True)
      (compare relation target source third) (compare relation target source third) := by
  apply (Operand.alike_load_conversion source_oblivious Value.indistinct_toDouble).bind
  rintro number _ rfl
  apply (Operand.alike_load_conversion third_oblivious Value.indistinct_toDouble).bind
  rintro other _ rfl
  exact Operand.alike_store target_oblivious (Value.corresponds_number _)

/-! ### Lists and objects -/

theorem alike_newList (target_oblivious : target.Oblivious) :
    Task.Alike (Context.Corresponds correspondence) (fun _ _ => True) (newList target)
      (newList target) := by
  have creates : Task.Alike (Memory.Corresponds correspondence) correspondence.lists
      (Task.ofUpdate (·.newList #[])) (Task.ofUpdate (·.newList #[])) :=
    Task.alike_ofUpdate fun _ _ corresponds =>
      ⟨⟨corresponds.leftLists_le, corresponds.rightLists_le⟩, corresponds.newList⟩
  apply creates.onMemory.bind
  intro handle otherHandle new
  exact Operand.alike_store target_oblivious (.list new)

theorem alike_newObject (target_oblivious : target.Oblivious) :
    Task.Alike (Context.Corresponds correspondence) (fun _ _ => True) (newObject target)
      (newObject target) := by
  have creates : Task.Alike (Memory.Corresponds correspondence) correspondence.cells
      (Task.ofUpdate (·.createObject)) (Task.ofUpdate (·.createObject)) :=
    Task.alike_ofUpdate fun _ _ corresponds => corresponds.createObject
  apply creates.onMemory.bind
  intro address other paired
  apply (Memory.alike_read paired).onMemory.bind
  intro value otherValue values
  exact Operand.alike_store target_oblivious values

theorem alike_indexOf (target_oblivious : target.Oblivious) (source_oblivious : source.Oblivious)
    (third_oblivious : third.Oblivious) :
    Task.Alike (Context.Corresponds correspondence) (fun _ _ => True)
      (indexOf target source third) (indexOf target source third) := by
  apply (Operand.alike_loadList source_oblivious).bind
  intro handle otherHandle new
  apply (Operand.alike_load_conversion third_oblivious Value.indistinct_toText).bind
  rintro text _ rfl
  apply (Memory.alike_indexOf new text).onMemory.bind
  rintro index _ rfl
  exact Operand.alike_store target_oblivious (Value.corresponds_number _)

theorem alike_join (target_oblivious : target.Oblivious) (source_oblivious : source.Oblivious) :
    Task.Alike (Context.Corresponds correspondence) (fun _ _ => True) (join target source)
      (join target source) := by
  apply (Operand.alike_loadList source_oblivious).bind
  intro handle otherHandle new
  apply (Memory.alike_join new).onMemory.bind
  rintro text _ rfl
  exact Operand.alike_store target_oblivious (.same nofun nofun)

theorem alike_count (target_oblivious : target.Oblivious) (source_oblivious : source.Oblivious) :
    Task.Alike (Context.Corresponds correspondence) (fun _ _ => True) (count target source)
      (count target source) := by
  have stores (size : Nat) : Task.Alike (Context.Corresponds correspondence) (fun _ _ => True)
      (target.store (.number (.ofInt size))) (target.store (.number (.ofInt size))) :=
    Operand.alike_store target_oblivious (Value.corresponds_number _)
  apply (Operand.alike_load source_oblivious).bind
  intro value otherValue values
  cases values with
  | object keys =>
      apply (Memory.alike_length keys).onMemory.bind
      rintro size _ rfl
      exact stores size
  | list new =>
      apply Task.alike_get.bind
      intro left right corresponds
      obtain ⟨empty, otherEmpty⟩ := corresponds.shared.memory.slots_eq new
      simp only [Memory.sizeOf, Memory.listLength_of_empty empty,
        Memory.listLength_of_empty otherEmpty]
      apply (Task.alike_ofConversion _).bind
      rintro size _ rfl
      exact stores size
  | same not_list not_object =>
      cases value with
      | list handle => exact absurd rfl (not_list handle)
      | object cells => exact absurd rfl (not_object cells)
      | text text =>
          apply Task.alike_get.bind
          intro left right corresponds
          apply (Task.alike_ofConversion (.ok text.length)).bind
          rintro size _ rfl
          exact stores size
      | _ => exact Task.alike_throw _

/-! ### Equality -/

/-- Cells are the same on one side if they are on the other, and what else is compared are values
up to their correspondence. -/
theorem alike_operandsEqual (source_oblivious : source.Oblivious)
    (third_oblivious : third.Oblivious) :
    Task.Alike (Context.Corresponds correspondence) Eq (operandsEqual source third)
      (operandsEqual source third) := by
  unfold operandsEqual
  split
  · exact Task.alike_pure rfl
  · split
    · apply (Operand.alike_load source_oblivious).bind
      intro value otherValue values
      apply (Operand.alike_load third_oblivious).bind
      intro second otherSecond seconds
      rw [Value.indistinct_immediatesEqual.apply_eq values seconds]
      exact Task.alike_pure rfl
    · apply (Operand.alike_address source_oblivious).bind
      intro slot otherSlot slots
      apply (Operand.alike_address third_oblivious).bind
      intro second otherSecond seconds
      cases slots with
      | none => cases seconds <;> exact Task.alike_pure rfl
      | some paired =>
          cases seconds with
          | none => exact Task.alike_pure rfl
          | some secondPaired =>
              have same_iff := correspondence.injective paired secondPaired
              rename_i address other secondAddress secondOther
              by_cases same : address = secondAddress
              · simp only [if_pos same, if_pos (same_iff.mp same)]
                exact Task.alike_pure rfl
              · simp only [if_neg same, if_neg (same ∘ same_iff.mpr)]
                apply (Memory.alike_read paired).onMemory.bind
                intro value otherValue values
                apply (Memory.alike_read secondPaired).onMemory.bind
                intro secondValue otherSecondValue secondValues
                rw [Value.indistinct_equal.apply_eq values secondValues]
                exact Task.alike_pure rfl

end Instruction

/-! ## Calls -/

/-- Execution goes on in the same way, with corresponding results. -/
inductive Flow.Corresponds (correspondence : Correspondence) : Flow → Flow → Prop where
  | next : Corresponds correspondence .next .next
  | jump (offset : Nat) : Corresponds correspondence (.jump offset) (.jump offset)
  | callLabel (offset : Nat) : Corresponds correspondence (.callLabel offset) (.callLabel offset)
  | callLibrary (program : Program) (label : UInt64) :
      Corresponds correspondence (.callLibrary program label) (.callLibrary program label)
  | ret {left right : Value} (values : left.Corresponds correspondence right) :
      Corresponds correspondence (.ret left) (.ret right)

/-- An instruction calls a function that the host has. -/
def Instruction.CallsNative (instruction : Instruction) (host : Host) (context : Context) : Prop :=
  instruction.opcode = .call ∧ ∃ id function,
    (instruction.operand 1).Names context (.native id) ∧ host.native? id = some function

namespace Instruction

variable (host : Host) (depth : Nat)

theorem alike_checkDepth :
    Task.Alike (Context.Corresponds correspondence) (fun _ _ => True) (checkDepth host depth)
      (checkDepth host depth) := by
  unfold checkDepth
  split
  · exact Task.alike_throw _
  · exact Task.alike_pure trivial

theorem alike_callLibrary (reference : FunctionReference) :
    Task.Alike (Context.Corresponds correspondence) (Flow.Corresponds correspondence)
      (callLibrary host depth reference) (callLibrary host depth reference) := by
  apply Task.alike_get.bind
  intro left right corresponds
  rw [corresponds.shared.libraries_eq]
  cases right.shared.libraries.get? reference.library with
  | none => exact Task.alike_throw _
  | some library =>
      apply (alike_checkDepth host depth).bind
      exact fun _ _ _ => Task.alike_pure (.callLibrary library.program reference.label)

theorem alike_callNative {id : NativeId} (missing : host.native? id = none) (name : String) :
    Task.Alike (Context.Corresponds correspondence) (Flow.Corresponds correspondence)
      (callNative host name id) (callNative host name id) := by
  unfold callNative
  rw [missing]
  exact Task.alike_throw _

/-- What is called is the same, unless it is a function of the host. -/
theorem pairs_call {callee : Operand} (oblivious : callee.Oblivious)
    (corresponds : left.Corresponds correspondence right)
    (missing : ∀ id, callee.Names left (.native id) → host.native? id = none) :
    (call host depth callee).Pairs (call host depth callee) left right
      (Context.Corresponds correspondence) (Flow.Corresponds correspondence) := by
  unfold call
  split
  · apply ((Operand.alike_labelOffset _).bind _) left right corresponds
    rintro offset _ rfl
    apply (alike_checkDepth host depth).bind
    exact fun _ _ _ => Task.alike_pure (.callLabel offset)
  · apply (Operand.alike_load oblivious left right corresponds).bind
    intro value otherValue after otherAfter values afters run
    rw [Operand.run_load] at run
    obtain ⟨evaluated, rfl⟩ := Prod.mk.inj run
    cases values with
    | list | object => exact Task.alike_throw _ _ _ afters
    | same =>
        cases value with
        | text name =>
            apply (Task.alike_get _ _ afters).bind
            intro current otherCurrent afterGet otherAfterGet currents aftersGet runGet
            cases runGet
            rw [← currents.shared.registry_eq]
            cases found : left.shared.registry.get? name with
            | none =>
                simp only [Context.withMemory, found]
                exact Task.alike_throw _ _ _ aftersGet
            | some linked =>
                simp only [Context.withMemory, found]
                cases linked with
                | native id =>
                    have missing := missing id (.text evaluated found)
                    exact alike_callNative host missing name _ _ aftersGet
                | library reference => exact alike_callLibrary host depth reference _ _ aftersGet
        | nativeFunction id =>
            exact alike_callNative host (missing id (.native evaluated)) _ _ _ afters
        | function reference => exact alike_callLibrary host depth reference _ _ afters
        | _ => exact Task.alike_throw _ _ _ afters

/-! ## All instructions -/

/-- An instruction that does not call a function of the host does the same in both contexts. -/
theorem pairs_perform {instruction : Instruction} (oblivious : instruction.Oblivious)
    (corresponds : left.Corresponds correspondence right)
    (quiet : ¬ instruction.CallsNative host left) :
    (instruction.perform host depth).Pairs (instruction.perform host depth) left right
      (Context.Corresponds correspondence) (Flow.Corresponds correspondence) := by
  have first := oblivious.operand 0
  have second := oblivious.operand 1
  have third := oblivious.operand 2
  have stays {task : Task Context Unit}
      (alike : Task.Alike (Context.Corresponds correspondence) (fun _ _ => True) task task) :
      (do task; return Flow.next : Task Context Flow).Pairs (do task; return Flow.next) left right
        (Context.Corresponds correspondence) (Flow.Corresponds correspondence) :=
    (alike.bind fun _ _ _ => Task.alike_pure .next) left right corresponds
  have stores {value otherValue : Value}
      (values : value.Corresponds correspondence otherValue) :
      Task.Alike (Context.Corresponds correspondence) (Flow.Corresponds correspondence)
        (do (instruction.operand 0).store value; return Flow.next)
        (do (instruction.operand 0).store otherValue; return Flow.next) :=
    (Operand.alike_store first values).bind fun _ _ _ => Task.alike_pure .next
  unfold perform
  cases opcode_eq : instruction.opcode with
  | nop | label => exact Task.alike_pure .next left right corresponds
  | move =>
      exact ((Operand.alike_load second).bind fun _ _ values => stores values) left right
        corresponds
  | makePointer =>
      rw [oblivious.source_eq opcode_eq]
      exact stays (alike_makePointer _)
  | truncate | fraction => exact stays (alike_convert _ first second)
  | newList => exact stays (alike_newList first)
  | newObject => exact stays (alike_newObject first)
  | indexOf => exact stays (alike_indexOf first second third)
  | join => exact stays (alike_join first second)
  | count => exact stays (alike_count first second)
  | add | subtract | multiply =>
      exact stays (alike_update (Value.indistinct_exactlyOrRounded _ _)
        (fun _ _ _ => Value.isPlain_of_exactlyOrRounded) first second)
  | divide =>
      exact stays (alike_update (Value.indistinct_rounded _) (fun _ _ _ => Value.isPlain_of_rounded)
        first second)
  | not => exact stays (alike_negate first)
  | and | or | xor => exact stays (alike_updateBits _ first second)
  | equal =>
      apply ((alike_operandsEqual second third).bind _) left right corresponds
      rintro same _ rfl
      exact stores (Value.corresponds_number _)
  | greaterThan | lessThan => exact stays (alike_compare _ first second third)
  | jump =>
      apply ((Operand.alike_labelOffset _).bind _) left right corresponds
      rintro offset _ rfl
      exact Task.alike_pure (.jump offset)
  | jumpIfTrue =>
      apply ((Operand.alike_load_conversion first Value.indistinct_toDouble).bind _) left right
        corresponds
      rintro condition _ rfl
      split
      · apply (Operand.alike_labelOffset _).bind
        rintro offset _ rfl
        exact Task.alike_pure (.jump offset)
      · exact Task.alike_pure .next
  | call =>
      apply pairs_call host depth second corresponds
      intro id named
      cases found : host.native? id with
      | none => rfl
      | some function => exact absurd ⟨opcode_eq, id, function, named, found⟩ quiet
  | ret =>
      exact ((Operand.alike_load first).bind fun _ _ values => Task.alike_pure (.ret values))
        left right corresponds
  | loadAddress | setListSlot | listSlotAddress | keysAddress | valuesAddress =>
      have none_used := oblivious.opcode
      rw [opcode_eq] at none_used
      cases none_used

end Instruction

end ScriptMachine
