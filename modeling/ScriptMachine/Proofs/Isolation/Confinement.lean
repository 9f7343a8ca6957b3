import ScriptMachine.Proofs.Link.Declarations
import ScriptMachine.Proofs.Link.Stages
import ScriptMachine.Proofs.Machine.Runs

/-!
# Confinement of programs

A program without addresses names cells by its variables only, and they are bound to cells
that were made when it was linked or later.  The memory before is the frontier: such a
program writes no cell below it, and as no cell above it holds a list that existed before, the
program comes by no such list and sets none of its slots.

`Memory.Isolates` is what holds of the memory from then on, `Scope.Confined` of the scope of
every program that was linked since.
-/

namespace ScriptMachine

/-! ## Programs without addresses -/

/-- Whether an operand is an address. -/
def Operand.isAddress : Operand → Bool
  | .rawAddress _ => true
  | _ => false

/-- An instruction that names cells by variables only, and makes pointers to new cells only. -/
structure Instruction.AddressFree (instruction : Instruction) : Prop where
  operands : ∀ operand ∈ instruction.operands, operand.isAddress = false
  source_eq : instruction.opcode = .makePointer → instruction.operand 1 = .none

instance (instruction : Instruction) : Decidable instruction.AddressFree :=
  decidable_of_iff
    ((∀ operand ∈ instruction.operands, operand.isAddress = false) ∧
      (instruction.opcode = .makePointer → instruction.operand 1 = .none))
    ⟨fun ⟨operands, source_eq⟩ => ⟨operands, source_eq⟩,
      fun ⟨operands, source_eq⟩ => ⟨operands, source_eq⟩⟩

theorem Instruction.AddressFree.isAddress_operand {instruction : Instruction}
    (addressFree : instruction.AddressFree) (index : Nat) :
    (instruction.operand index).isAddress = false := by
  unfold operand
  cases found : instruction.operands[index]? with
  | none => rfl
  | some operand => exact addressFree.operands operand (List.mem_of_getElem? found)

/-- A program all of whose instructions name cells by variables only. -/
def Program.AddressFree (program : Program) : Prop :=
  ∀ instruction ∈ program.instructions, instruction.AddressFree

instance (program : Program) : Decidable program.AddressFree :=
  inferInstanceAs (Decidable (∀ instruction ∈ program.instructions, instruction.AddressFree))

theorem Activation.addressFree_instruction {activation : Activation}
    (addressFree : activation.program.AddressFree) : activation.instruction.AddressFree := by
  unfold instruction instruction?
  cases found : activation.program.instructions[activation.offset]? with
  | none => exact ⟨by simp, by simp⟩
  | some instruction => exact addressFree instruction (Array.mem_of_getElem? found)

/-! ## The frontier -/

/-- The value is no list that exists in the memory. -/
def Value.ForeignTo (memory : Memory) (value : Value) : Prop :=
  ∀ handle, value = .list handle → memory.lists.size ≤ handle.index

namespace Value

variable {memory : Memory} {value : Value}

theorem IsPlain.foreignTo (isPlain : value.IsPlain) (memory : Memory) :
    value.ForeignTo memory := by
  rintro handle rfl
  exact isPlain.elim

theorem NewTo.foreignTo (new : value.NewTo memory) : value.ForeignTo memory := by
  rintro handle rfl
  cases new with
  | list outside => exact outside

end Value

namespace Memory

/-- The cells and the lists of a memory are the same in another, and no other cell holds one of
the lists. -/
structure Isolates (before after : Memory) : Prop extends before.Preserves after where
  foreignTo : ∀ address, before.size ≤ address.index → (after.lookup address).ForeignTo before

namespace Isolates

variable {before middle after : Memory}

theorem refl (memory : Memory) : memory.Isolates memory where
  size_le := Nat.le_refl _
  lists_size_le := Nat.le_refl _
  lookup_eq _ _ := rfl
  slots_eq _ _ := rfl
  foreignTo address outside := by
    rw [lookup_of_size_le outside]
    exact Value.NewTo.none.foreignTo

theorem grow (isolates : before.Isolates middle) (growth : middle.GrowsTo after) :
    before.Isolates after where
  size_le := Nat.le_trans isolates.size_le growth.size_le
  lists_size_le := Nat.le_trans isolates.lists_size_le growth.lists_size_le
  lookup_eq address inside := by
    rw [growth.lookup_eq address (Nat.lt_of_lt_of_le inside isolates.size_le)]
    exact isolates.lookup_eq address inside
  slots_eq handle existed := by
    rw [growth.slots_eq]
    exact isolates.slots_eq handle existed
  foreignTo address outside := by
    rcases Nat.lt_or_ge address.index middle.size with inside | beyond
    · rw [growth.lookup_eq address inside]
      exact isolates.foreignTo address outside
    · have new := growth.lookup_new address beyond
      exact (new.mono isolates.size_le isolates.lists_size_le).foreignTo

theorem write (isolates : before.Isolates middle) {address : Address}
    (outside : before.size ≤ address.index) {value : Value} (foreign : value.ForeignTo before) :
    before.Isolates (middle.write address value) where
  size_le := by
    rw [size_write]
    exact Nat.le_trans isolates.size_le (Nat.le_max_left _ _)
  lists_size_le := by
    rw [lists_write]
    exact isolates.lists_size_le
  lookup_eq other inside := by
    have different : other ≠ address := by
      rintro rfl
      omega
    rw [lookup_write, if_neg different]
    exact isolates.lookup_eq other inside
  slots_eq handle existed := by
    rw [slots, lists_write]
    exact isolates.slots_eq handle existed
  foreignTo other beyond := by
    rw [lookup_write]
    split
    · exact foreign
    · exact isolates.foreignTo other beyond

theorem setSlot (isolates : before.Isolates middle) {handle : ListHandle}
    (outside : before.lists.size ≤ handle.index) (index : Nat) (address : Option Address) :
    before.Isolates (middle.setSlot handle index address) where
  size_le := isolates.size_le
  lists_size_le := by
    simp only [Memory.setSlot, withSlots, Table.size_set]
    exact Nat.le_trans isolates.lists_size_le (Nat.le_max_left _ _)
  lookup_eq := isolates.lookup_eq
  slots_eq other existed := by
    have different : other ≠ handle := by
      rintro rfl
      omega
    rw [Memory.setSlot, slots_withSlots, if_neg different]
    exact isolates.slots_eq other existed
  foreignTo := isolates.foreignTo

theorem allocate (isolates : before.Isolates middle) {value : Value}
    (foreign : value.ForeignTo before) : before.Isolates (middle.allocate value).2 where
  size_le := by
    rw [size_allocate]
    exact Nat.le_succ_of_le isolates.size_le
  lists_size_le := isolates.lists_size_le
  lookup_eq address inside := by
    have size_le := isolates.size_le
    rw [lookup_allocate, if_neg (by omega)]
    exact isolates.lookup_eq address inside
  slots_eq := isolates.slots_eq
  foreignTo address outside := by
    rw [lookup_allocate]
    split
    · exact foreign
    · exact isolates.foreignTo address outside

end Isolates

end Memory

/-! ## Contexts -/

/-- All variables are bound above the frontier. -/
def Scope.Confined (before : Memory) (scope : Scope) : Prop :=
  ∀ index binding address, scope.vars.get? index = some binding →
    binding.target = some address → before.size ≤ address.index

/-- The context of a program that has been linked since. -/
structure Context.Isolated (before : Memory) (context : Context) : Prop where
  memory : before.Isolates context.shared.memory
  scope : context.scope.Confined before

/-- The changes that a program without addresses makes. -/
def Effect.Confined (before : Memory) : Effect → Prop
  | .none | .register _ _ => True
  | .cell address value => before.size ≤ address.index ∧ value.ForeignTo before
  | .pointer _ target => ∀ address, target = some address → before.size ≤ address.index
  | .slot handle _ _ => before.lists.size ≤ handle.index

variable {before : Memory} {context : Context} {scope : Scope}

theorem Context.Isolated.grow {after : Context} (isolated : context.Isolated before)
    (growth : context.GrowsTo after) : after.Isolated before where
  memory := isolated.memory.grow growth.memory
  scope := by
    rw [growth.scope_eq]
    exact isolated.scope

theorem Scope.Confined.set {vars : Variables} {labels : Labels}
    (confined : Scope.Confined before ⟨vars, labels⟩) (index : Nat) {binding : Binding Address}
    (outside : ∀ address, binding.target = some address → before.size ≤ address.index) :
    Scope.Confined before ⟨vars.set index binding, labels⟩ := by
  intro other found address bound target_eq
  by_cases same : other = index
  · subst same
    obtain rfl := Option.some.inj ((Table.get?_set_self vars other binding).symm.trans bound)
    exact outside address target_eq
  · exact confined other found address ((Table.get?_set_ne same).symm.trans bound) target_eq

theorem Effect.Confined.isolated {effect : Effect} (confined : effect.Confined before)
    (isolated : context.Isolated before) : (effect.apply context).Isolated before := by
  cases effect with
  | none => exact isolated
  | register => exact ⟨isolated.memory, isolated.scope⟩
  | cell address value => exact ⟨isolated.memory.write confined.1 confined.2, isolated.scope⟩
  | slot handle index address =>
      exact ⟨isolated.memory.setSlot confined index address, isolated.scope⟩
  | pointer index target =>
      constructor
      · exact isolated.memory
      · apply isolated.scope.set
        split <;> exact confined

namespace Operand

variable {operand : Operand} {value : Value}

theorem outside_of_cell? (confined : scope.Confined before)
    (not_address : operand.isAddress = false) {address : Address}
    (named : operand.cell? scope = some address) : before.size ≤ address.index := by
  cases operand with
  | «variable» index =>
      obtain ⟨binding, bound, target_eq⟩ := Option.bind_eq_some_iff.mp named
      exact confined index.toNat binding address bound target_eq
  | rawAddress raw => cases not_address
  | _ => cases named

/-- A program without addresses reads no list that existed before. -/
theorem foreignTo_of_evaluate (isolated : context.Isolated before)
    (not_address : operand.isAddress = false) (evaluated : operand.evaluate context = .ok value) :
    value.ForeignTo before := by
  cases operand with
  | none | register =>
      obtain rfl := Except.ok.inj evaluated
      apply Value.IsPlain.foreignTo
      trivial
  | literal literal =>
      obtain rfl := Except.ok.inj evaluated
      exact (Value.isPlain_ofLiteral literal).foreignTo before
  | label => cases evaluated
  | rawAddress raw => cases not_address
  | «variable» index =>
      simp only [evaluate] at evaluated
      split at evaluated
      · rename_i binding bound
        obtain rfl := Except.ok.inj evaluated
        cases target_eq : binding.target with
        | none => exact Value.NewTo.none.foreignTo
        | some address =>
            have outside := isolated.scope index.toNat binding address bound target_eq
            exact isolated.memory.foreignTo address outside
      · cases evaluated

theorem Receives.confined {effect : Effect} (receives : operand.Receives scope value effect)
    (confined : scope.Confined before) (not_address : operand.isAddress = false)
    (foreign : value.ForeignTo before) : effect.Confined before := by
  cases receives with
  | register | null => trivial
  | cell named => exact ⟨outside_of_cell? confined not_address named, foreign⟩

end Operand

namespace Instruction

variable {instruction : Instruction} {host : Host} {depth : Nat} {flow : Flow} {effect : Effect}
  {value : Value}

theorem Gives.foreignTo (gives : instruction.Gives context value)
    (isolated : context.Isolated before) (addressFree : instruction.AddressFree) :
    value.ForeignTo before := by
  cases gives with
  | plain isPlain => exact isPlain.foreignTo before
  | new newTo =>
      exact (newTo.mono isolated.memory.size_le isolated.memory.lists_size_le).foreignTo
  | copy evaluated =>
      exact Operand.foreignTo_of_evaluate isolated (addressFree.isAddress_operand 1) evaluated

/-- An instruction without addresses changes nothing below the frontier. -/
theorem Does.confined (does : instruction.Does host depth context flow effect)
    (isolated : context.Isolated before) (addressFree : instruction.AddressFree) :
    effect.Confined before := by
  cases does with
  | store stores gives receives =>
      exact receives.confined isolated.scope (addressFree.isAddress_operand 0)
        (gives.foreignTo isolated addressFree)
  | newPointer opcode_eq target_eq source_eq new =>
      rintro _ ⟨⟩
      rw [new]
      exact isolated.memory.size_le
  | pointer opcode_eq target_eq source_ne =>
      exact absurd (addressFree.source_eq opcode_eq) source_ne
  | slot opcode_eq evaluated =>
      exact Operand.foreignTo_of_evaluate isolated (addressFree.isAddress_operand 0) evaluated _ rfl
  | _ => trivial

theorem Does.foreignTo_of_ret (does : instruction.Does host depth context (.ret value) effect)
    (isolated : context.Isolated before) (addressFree : instruction.AddressFree) :
    value.ForeignTo before := by
  cases does with
  | call opcode_eq calls => cases calls
  | ret opcode_eq evaluated =>
      exact Operand.foreignTo_of_evaluate isolated (addressFree.isAddress_operand 0) evaluated

end Instruction

/-! ## Linking -/

namespace Program

theorem isolated_bindAll {memory : Memory} {vars : Variables} (declarations : List Declaration)
    (plain : ∀ declaration ∈ declarations, declaration.value.IsPlain)
    (isolates : before.Isolates memory) (confined : Scope.Confined before ⟨vars, .empty⟩) :
    before.Isolates (Declaration.bindAll memory vars declarations).1 ∧
      Scope.Confined before ⟨(Declaration.bindAll memory vars declarations).2, .empty⟩ := by
  induction declarations generalizing memory vars with
  | nil => exact ⟨isolates, confined⟩
  | cons declaration rest ih =>
      rcases List.forall_mem_cons.mp plain with ⟨isPlain, plain⟩
      apply ih plain
      · exact isolates.allocate (isPlain.foreignTo before)
      · apply confined.set
        rintro _ ⟨⟩
        exact isolates.size_le

/-- Declarations are bound to new cells. -/
theorem isolated_declare (program : Program) {shared : SharedState}
    (isolates : before.Isolates shared.memory) :
    (program.declare shared).2.Isolated before := by
  have unbound : Scope.Confined before ⟨.empty, .empty⟩ := by
    intro index binding address bound
    cases bound
  have bound := isolated_bindAll program.declarations
    (fun _ => program.isPlain_of_mem_declarations) isolates unbound
  rw [← program.bound_declare shared] at bound
  exact ⟨bound.1, bound.2⟩

/-- However far the linking of a library comes, its context is isolated. -/
theorem Links.isolated {program : Program} {host : Host} {start : SharedState}
    {result : Except ExecutionError Unit} {linked : Context}
    (links : program.Links host none start result linked)
    (isolates : before.Isolates start.memory) : linked.Isolated before := by
  have ends := SharedState.linkImports_ends host program start
  cases links with
  | notImported imports =>
      have imported := ends.of_run_error imports
      constructor
      · rw [imported.memory_eq]
        exact isolates
      · intro index binding address bound
        cases bound
  | notDeclared imports declares =>
      have imported := (ends.of_run_ok imports).1
      have isolated := isolated_declare program (imported.memory_eq ▸ isolates)
      rw [declares] at isolated
      exact isolated
  | linked imports declares =>
      have imported := (ends.of_run_ok imports).1
      have isolated := isolated_declare program (imported.memory_eq ▸ isolates)
      rw [declares] at isolated
      exact isolated

end Program

end ScriptMachine
