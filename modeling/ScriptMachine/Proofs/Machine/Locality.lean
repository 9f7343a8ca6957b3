import ScriptMachine.Engine
import ScriptMachine.Proofs.Machine.Runs

/-!
# Locality of instructions

How much of a context one instruction can change.  The registers, the cells, the bindings of
variables and the lists are the places of a context, each of which changes by itself.  An
instruction that faults changes none of them: all that it leaves behind is memory at the end, also
if it has come so far as to make a list or an object.  An instruction that succeeds changes at most
one place that existed before, and its first operand is what names it.

Both are read off `Instruction.Does` and the growth around it, for all opcodes at once.  The result
of a call is stored when the call ends, which is not part of the instruction; until it hands over
control, a call is an instruction like the others.
-/

namespace ScriptMachine

/-! ## Places of a context -/

/-- What changes by itself in a context. -/
inductive Place where
  | register (index : UInt8)
  | cell (address : Address)
  /-- The binding of a variable. -/
  | binding (index : Nat)
  /-- The slots of a list. -/
  | list (handle : ListHandle)

namespace Place

/-- Cells and lists exist if memory has them; registers and tables are always there. -/
def ExistsIn (context : Context) : Place → Prop
  | .cell address => address.index < context.shared.memory.size
  | .list handle => handle.index < context.shared.memory.lists.size
  | .register _ | .binding _ => True

/-- What is at a place is the same in two contexts. -/
def SameIn (before after : Context) : Place → Prop
  | .register index => after.shared.registers.get index = before.shared.registers.get index
  | .cell address => after.shared.memory.lookup address = before.shared.memory.lookup address
  | .binding index => after.scope.vars.get? index = before.scope.vars.get? index
  | .list handle => after.shared.memory.slots handle = before.shared.memory.slots handle

variable {before middle after : Context} {place : Place}

theorem ExistsIn.grow (existed : place.ExistsIn before) (growth : before.GrowsTo after) :
    place.ExistsIn after := by
  cases place with
  | register | binding => trivial
  | cell => exact Nat.lt_of_lt_of_le existed growth.memory.size_le
  | list => exact Nat.lt_of_lt_of_le existed growth.memory.lists_size_le

theorem SameIn.trans (first : place.SameIn before middle) (second : place.SameIn middle after) :
    place.SameIn before after := by
  cases place <;> exact second.trans first

end Place

namespace Context

/-- All that existed is the same but for one place, if any, and memory is not smaller. -/
structure SameBut (before : Context) (changed : Option Place) (after : Context) : Prop where
  others : ∀ place : Place, place.ExistsIn before → some place ≠ changed → place.SameIn before after
  size_le : before.shared.memory.size ≤ after.shared.memory.size
  lists_size_le : before.shared.memory.lists.size ≤ after.shared.memory.lists.size
  labels_eq : after.scope.labels = before.scope.labels
  registry_eq : after.shared.registry = before.shared.registry
  libraries_eq : after.shared.libraries = before.shared.libraries

variable {before middle after : Context} {changed : Option Place}

theorem GrowsTo.sameIn (growth : before.GrowsTo after) {place : Place}
    (existed : place.ExistsIn before) : place.SameIn before after := by
  cases place with
  | cell address => exact growth.memory.lookup_eq address existed
  | list handle => exact growth.memory.slots_eq handle
  | register | binding =>
      cases growth
      rfl

/-- What memory has grown by did not exist before. -/
theorem SameBut.after_growth (growth : before.GrowsTo middle)
    (same : middle.SameBut changed after) : before.SameBut changed after where
  others place existed different :=
    (growth.sameIn existed).trans (same.others place (existed.grow growth) different)
  size_le := Nat.le_trans growth.memory.size_le same.size_le
  lists_size_le := Nat.le_trans growth.memory.lists_size_le same.lists_size_le
  labels_eq := by rw [same.labels_eq, growth.scope_eq]
  registry_eq := same.registry_eq.trans growth.registry_eq
  libraries_eq := same.libraries_eq.trans growth.libraries_eq

/-- If the place that changes did not exist, nothing that existed changes. -/
theorem SameBut.of_new {place : Place} (same : before.SameBut (some place) after)
    (new : ¬place.ExistsIn before) : before.SameBut none after :=
  { same with
    others := by
      intro other existed _
      apply same.others other existed
      rintro ⟨⟩
      exact new existed }

end Context

/-! ## Effects -/

namespace Effect

/-- The place of the context that an effect changes. -/
def place? : Effect → Option Place
  | .none => Option.none
  | .register index _ => some (.register index)
  | .cell address _ => some (.cell address)
  | .pointer index _ => some (.binding index.toNat)
  | .slot handle _ _ => some (.list handle)

/-- An effect leaves all other places alone. -/
theorem sameIn_apply (effect : Effect) (context : Context) {place : Place}
    (different : some place ≠ effect.place?) : place.SameIn context (effect.apply context) := by
  cases effect with
  | none => cases place <;> rfl
  | register index raw =>
      cases place with
      | register other =>
          have index_ne : other ≠ index := by
            rintro rfl
            exact different rfl
          exact (Registers.get_set _ _ _ _).trans (if_neg index_ne)
      | _ => rfl
  | cell address value =>
      cases place with
      | cell other =>
          have address_ne : other ≠ address := by
            rintro rfl
            exact different rfl
          exact (Memory.lookup_write _ _ _ _).trans (if_neg address_ne)
      | list handle =>
          simp only [Place.SameIn, apply, Context.withMemory, Memory.slots, Memory.lists_write]
      | _ => rfl
  | pointer index target =>
      cases place with
      | binding other =>
          have index_ne : other ≠ index.toNat := by
            rintro rfl
            exact different rfl
          exact Table.get?_set_ne index_ne
      | _ => rfl
  | slot handle index address =>
      cases place with
      | list other =>
          have handle_ne : other ≠ handle := by
            rintro rfl
            exact different rfl
          exact (Memory.slots_withSlots _ _ _ _).trans (if_neg handle_ne)
      | _ => rfl

theorem size_le_apply (effect : Effect) (context : Context) :
    context.shared.memory.size ≤ (effect.apply context).shared.memory.size ∧
      context.shared.memory.lists.size ≤ (effect.apply context).shared.memory.lists.size := by
  cases effect with
  | none | register | pointer => exact ⟨Nat.le_refl _, Nat.le_refl _⟩
  | cell address value =>
      simp only [apply, Context.withMemory, Memory.size_write, Memory.lists_write]
      exact ⟨Nat.le_max_left _ _, Nat.le_refl _⟩
  | slot handle index address =>
      simp only [apply, Context.withMemory, Memory.setSlot, Memory.withSlots, Table.size_set]
      exact ⟨Nat.le_refl _, Nat.le_max_left _ _⟩

theorem sameBut_apply (effect : Effect) (context : Context) :
    context.SameBut effect.place? (effect.apply context) where
  others _ _ different := effect.sameIn_apply context different
  size_le := (effect.size_le_apply context).1
  lists_size_le := (effect.size_le_apply context).2
  labels_eq := effect.labels_apply context
  registry_eq := effect.registry_apply context
  libraries_eq := effect.libraries_apply context

end Effect

/-! ## Instructions -/

/-- The faults of a call that has not handed over control. -/
def Fault.OfCall : Fault → Prop
  | .typeMismatch _ | .unsupportedOperand _ | .unboundVariable _ | .unboundLabel _
  | .unknownFunction _ | .unknownNativeFunction _ | .unknownLibrary _ | .stackOverflow => True
  | _ => False

/-- The opcodes that only move control. -/
def Opcode.onlyMoves : Opcode → Bool
  | .nop | .label | .jump | .jumpIfTrue | .ret => true
  | _ => false

namespace Instruction

/-- The place of a context that the first operand names as the one to change. -/
inductive Targets (instruction : Instruction) (context : Context) : Place → Prop where
  | register {index : UInt8} (stores : instruction.opcode.stores = true)
      (operand_eq : instruction.operand 0 = .register index) :
      Targets instruction context (.register index)
  | cell {address : Address} (stores : instruction.opcode.stores = true)
      (named : (instruction.operand 0).cell? context.scope = some address) :
      Targets instruction context (.cell address)
  | binding {index : UInt64} (opcode_eq : instruction.opcode = .makePointer)
      (operand_eq : instruction.operand 0 = .variable index) :
      Targets instruction context (.binding index.toNat)
  | list {handle : ListHandle} (opcode_eq : instruction.opcode = .setListSlot)
      (evaluated : (instruction.operand 0).evaluate context = .ok (.list handle)) :
      Targets instruction context (.list handle)

variable {instruction : Instruction} {host : Host} {depth : Nat} {context middle : Context}
  {flow : Flow} {effect : Effect}

/-- An instruction changes the place that its first operand names. -/
theorem Does.targets (does : instruction.Does host depth context flow effect) {place : Place}
    (place_eq : effect.place? = some place) : instruction.Targets context place := by
  cases does with
  | store stores gives receives =>
      generalize operand_eq : instruction.operand 0 = operand at receives
      cases receives with
      | register converted =>
          cases place_eq
          exact .register stores operand_eq
      | cell named =>
          cases place_eq
          exact .cell stores (operand_eq ▸ named)
      | null => cases place_eq
  | newPointer opcode_eq target_eq | pointer opcode_eq target_eq =>
      cases place_eq
      exact .binding opcode_eq target_eq
  | slot opcode_eq evaluated =>
      cases place_eq
      exact .list opcode_eq evaluated
  | nothing | jump | pass | call | ret => cases place_eq

/-- Of what existed, an instruction changes one place at most. -/
theorem Does.sameBut (does : instruction.Does host depth context flow effect)
    (growth : context.GrowsTo middle) :
    ∃ changed, context.SameBut changed (effect.apply middle) ∧
      ∀ place, changed = some place →
        place.ExistsIn context ∧ instruction.Targets context place := by
  have same := Context.SameBut.after_growth growth (effect.sameBut_apply middle)
  cases place_eq : effect.place? with
  | none =>
      rw [place_eq] at same
      exact ⟨none, same, by simp⟩
  | some place =>
      rw [place_eq] at same
      by_cases existed : place.ExistsIn context
      · refine ⟨some place, same, ?_⟩
        rintro _ ⟨⟩
        exact ⟨existed, does.targets place_eq⟩
      · exact ⟨none, same.of_new existed, by simp⟩

/-- What neither calls nor returns goes on in its program. -/
theorem Does.onward (does : instruction.Does host depth context flow effect)
    (not_call : instruction.opcode ≠ .call) (not_ret : instruction.opcode ≠ .ret) :
    flow = .next ∨ ∃ offset, flow = .jump offset := by
  cases does with
  | nothing | store | newPointer | pointer | slot | pass => exact .inl rfl
  | jump => exact .inr ⟨_, rfl⟩
  | call opcode_eq => contradiction
  | ret opcode_eq => contradiction

theorem Does.gives_of_ret (does : instruction.Does host depth context flow effect)
    (opcode_eq : instruction.opcode = .ret) : ∃ value, flow = .ret value := by
  cases does with
  | ret => exact ⟨_, rfl⟩
  | nothing other_eq => simp [opcode_eq] at other_eq
  | store stores => simp [opcode_eq, Opcode.stores] at stores
  | jump jumps => cases jumps <;> simp_all
  | newPointer other_eq | pointer other_eq | slot other_eq | pass other_eq | call other_eq =>
      simp [opcode_eq] at other_eq

/-- Moving control takes an inspection and nothing else. -/
theorem inspects_perform (instruction : Instruction) (host : Host) (depth : Nat)
    (context : Context) (moves : instruction.opcode.onlyMoves = true) :
    (instruction.perform host depth).Inspects context fun _ => True := by
  unfold perform
  cases opcode_eq : instruction.opcode with
  | nop | label => exact inspects_pure context trivial
  | jump =>
      apply (Operand.inspects_labelOffset context _).bind
      exact fun offset after _ _ => inspects_pure after trivial
  | jumpIfTrue =>
      apply (Operand.inspects_loadDouble context _).bind
      intro condition after _ _
      split
      · apply (Operand.inspects_labelOffset after _).bind
        exact fun offset after _ _ => inspects_pure after trivial
      · exact inspects_pure after trivial
  | ret =>
      apply (Operand.inspects_load context _).bind
      exact fun value after _ _ => inspects_pure after trivial
  | _ =>
      rw [opcode_eq] at moves
      cases moves

end Instruction

/-! ## Faults of calls -/

namespace Operand

theorem variableAddress_refuses (index : UInt64) :
    (variableAddress index).RefusesOnly Fault.OfCall := by
  apply Task.RefusesOnly.bind .get
  intro context
  split
  · exact .pure _
  · exact .throw trivial

theorem load_refuses (operand : Operand) : operand.load.RefusesOnly Fault.OfCall := by
  cases operand with
  | none | literal => exact .pure _
  | register index => exact .bind .get fun _ => .pure _
  | «variable» index =>
      apply (variableAddress_refuses index).bind
      exact fun _ => .within (.ofUpdate _)
  | rawAddress raw =>
      unfold load
      exact .within (.ofUpdate _)
  | label => exact .throw trivial

theorem labelOffset_refuses (operand : Operand) :
    operand.labelOffset.RefusesOnly Fault.OfCall := by
  cases operand with
  | label index =>
      apply Task.RefusesOnly.bind .get
      intro context
      split
      · exact .pure _
      · exact .throw trivial
  | _ => exact .throw trivial

end Operand

namespace Instruction

theorem callArguments_refuses : callArguments.RefusesOnly Fault.OfCall := by
  apply Task.RefusesOnly.bind .get
  intro context
  split
  · exact .pure _
  · apply Task.RefusesOnly.bind
    · apply Task.RefusesOnly.within
      apply Task.RefusesOnly.bind (.ofUpdate _)
      exact fun value => .ofConversion value.asList fun _ => trivial
    · exact fun _ => .within (.ofUpdate _)

variable (host : Host) (depth : Nat)

theorem checkDepth_refuses : (checkDepth host depth).RefusesOnly Fault.OfCall := by
  unfold checkDepth
  split
  · exact .throw trivial
  · exact .pure _

theorem callNative_refuses (name : String) (id : NativeId) :
    (callNative host name id).RefusesOnly Fault.OfCall := by
  unfold callNative
  split
  · exact .throw trivial
  · exact callArguments_refuses.bind fun _ => .pure _

theorem callLibrary_refuses (reference : FunctionReference) :
    (callLibrary host depth reference).RefusesOnly Fault.OfCall := by
  apply Task.RefusesOnly.bind .get
  intro context
  split
  · exact .throw trivial
  · exact (checkDepth_refuses host depth).bind fun _ => .pure _

theorem call_refuses (callee : Operand) : (call host depth callee).RefusesOnly Fault.OfCall := by
  unfold call
  split
  · apply (Operand.labelOffset_refuses _).bind
    exact fun _ => (checkDepth_refuses host depth).bind fun _ => .pure _
  · apply callee.load_refuses.bind
    intro value
    split
    · apply Task.RefusesOnly.bind .get
      intro context
      split
      · exact callNative_refuses host _ _
      · exact callLibrary_refuses host depth _
      · exact .throw trivial
    · exact callNative_refuses host _ _
    · exact callLibrary_refuses host depth _
    · exact .throw trivial

end Instruction

/-! ## Machines -/

/-- Control goes to what is called, or back to what has called. -/
def Flow.transfers : Flow → Bool
  | .next | .jump _ => false
  | _ => true

namespace Machine

variable {host : Host} {machine : Machine}

/-- The next instruction succeeds and hands over control. -/
def HandsOver (host : Host) (machine : Machine) : Prop :=
  ∃ flow context, machine.next host = (.ok flow, context) ∧ flow.transfers = true

/-- What the next instruction does when it succeeds. -/
theorem does_of_next {instruction : Instruction} {flow : Flow} {after : Context}
    (current : machine.current.instruction? = some instruction)
    (succeeds : machine.next host = (.ok flow, after)) :
    ∃ middle effect, machine.context.GrowsTo middle ∧
      instruction.Does host machine.current.depth machine.context flow effect ∧
        after = effect.apply middle := by
  simp only [next, current] at succeeds
  have acts := instruction.perform_acts host machine.current.depth machine.context
  exact acts.of_run_ok succeeds

/-- Only calls and returns hand over control. -/
theorem HandsOver.opcode_eq {instruction : Instruction} (handsOver : machine.HandsOver host)
    (current : machine.current.instruction? = some instruction) :
    instruction.opcode = .call ∨ instruction.opcode = .ret := by
  rcases handsOver with ⟨flow, after, succeeds, transfers⟩
  rcases does_of_next current succeeds with ⟨middle, effect, growth, does, rfl⟩
  by_cases call_eq : instruction.opcode = .call
  · exact .inl call_eq
  · by_cases ret_eq : instruction.opcode = .ret
    · exact .inr ret_eq
    · rcases does.onward call_eq ret_eq with rfl | ⟨offset, rfl⟩ <;> cases transfers

/-- An execution that ends before control is handed over ends by a fault of the next instruction. -/
theorem exists_fault_of_stays {outcome : Outcome} (ended : machine.step host = .finished outcome)
    (stays : ¬machine.HandsOver host) :
    ∃ cause context, machine.next host = (.error cause, context) := by
  rcases next_eq : machine.next host with ⟨cause | flow, context⟩
  · exact ⟨cause, context, rfl⟩
  · simp only [step, next_eq] at ended
    cases flow with
    | next | jump => cases ended
    | callLabel | callLibrary | callNative | ret => exact absurd ⟨_, _, next_eq, rfl⟩ stays

/-- If an execution ends before the next instruction hands over control, then by a fault that
leaves the machine as it was, except that memory may have grown. -/
theorem fault_atomicity {outcome : Outcome} (ended : machine.step host = .finished outcome)
    (stays : ¬machine.HandsOver host) :
    ∃ instruction cause memory, machine.current.instruction? = some instruction ∧
      machine.next host = (.error cause, machine.context.withMemory memory) ∧
      (instruction.opcode = .call → cause.OfCall) ∧ machine.shared.memory.GrowsTo memory ∧
      outcome =
        { result := .error
            ((ExecutionError.fault cause (some machine.current.location)).wrap machine.callers)
          shared := { machine.shared with memory := memory }
          scope := machine.rootScope } := by
  rcases exists_fault_of_stays ended stays with ⟨cause, context, next_eq⟩
  rcases refuses_of_next next_eq with ⟨instruction, current, ⟨growth⟩, -⟩
  refine ⟨instruction, cause, _, current, next_eq, ?_, growth, ?_⟩
  · intro opcode_eq
    simp only [next, current, Instruction.perform, opcode_eq] at next_eq
    exact (Instruction.call_refuses host _ _ _).of_run_error next_eq
  · have stepped := (step_of_next_error next_eq).symm.trans ended
    cases stepped
    exact congrArg (Outcome.mk _ _) (rootScope_congr rfl rfl)

/-- A program that makes an object where it cannot be stored. -/
def misplacingProgram : Program where
  imports := []
  constants := []
  vars := [⟨0, "result", .hidden⟩]
  functions := [⟨0, "main", .exported⟩]
  instructions := #[
    .make .label [.label 0],
    .make .newObject [.literal (.number .one)]]

/-- The fault comes when memory has grown by the object. -/
theorem fault_atomicity_misplacingProgram :
    ∃ initial machine outcome cause memory,
      (Engine.ofProgram misplacingProgram).start Engine.mainEntry none true = .running initial ∧
        initial.run Host.empty 1 = .running machine ∧
        machine.step Host.empty = .finished outcome ∧
        machine.next Host.empty = (.error cause, machine.context.withMemory memory) ∧
        machine.shared.memory.size < memory.size ∧ machine.shared.memory.GrowsTo memory ∧
        outcome.shared = { machine.shared with memory := memory } := by
  have states : ∃ initial machine instruction outcome cause context,
      (Engine.ofProgram misplacingProgram).start Engine.mainEntry none true = .running initial ∧
        initial.run Host.empty 1 = .running machine ∧
        machine.current.instruction? = some instruction ∧ instruction.opcode = .newObject ∧
        machine.step Host.empty = .finished outcome ∧
        machine.next Host.empty = (.error cause, context) ∧
        machine.shared.memory.size = 2 ∧ context.shared.memory.size = 5 :=
    ⟨_, _, _, _, _, _, rfl, rfl, rfl, rfl, rfl, rfl, rfl, rfl⟩
  rcases states with ⟨initial, machine, instruction, outcome, cause, context, starts, runs,
    current, opcode_eq, ended, faults, size_eq, grown_eq⟩
  have stays : ¬machine.HandsOver Host.empty := by
    intro handsOver
    rcases handsOver.opcode_eq current with call_eq | ret_eq
    · cases opcode_eq.symm.trans call_eq
    · cases opcode_eq.symm.trans ret_eq
  rcases fault_atomicity ended stays with ⟨_, _, memory, -, faults', -, growth, rfl⟩
  cases faults.symm.trans faults'
  have size_lt : machine.shared.memory.size < memory.size := by
    rw [size_eq]
    exact Nat.lt_of_lt_of_eq (by decide) grown_eq.symm
  exact ⟨initial, machine, _, cause, memory, starts, runs, ended, faults, size_lt, growth, rfl⟩

/-- An instruction other than a call that succeeds changes at most one of the places that existed,
the one that its first operand names, and lets the rest of memory grow.  If it only moves control,
it changes nothing.  The machine goes on in its program, or gives back what is returned. -/
theorem instruction_locality {instruction : Instruction} {flow : Flow} {after : Context}
    (current : machine.current.instruction? = some instruction)
    (not_call : instruction.opcode ≠ .call) (succeeds : machine.next host = (.ok flow, after)) :
    (∃ changed, machine.context.SameBut changed after ∧
      ∀ place, changed = some place →
        place.ExistsIn machine.context ∧ instruction.Targets machine.context place) ∧
    (instruction.opcode.onlyMoves = true → machine.context.PaddedTo after) ∧
    (instruction.opcode ≠ .ret → ∃ offset,
      machine.step host = .running ((machine.withContext after).goTo offset)) ∧
    (instruction.opcode = .ret → ∃ value,
      machine.step host = (machine.withContext after).giveBack value) := by
  rcases does_of_next current succeeds with ⟨middle, effect, growth, does, rfl⟩
  refine ⟨does.sameBut growth, ?_, ?_, ?_⟩
  · intro moves
    have inspects := instruction.inspects_perform host machine.current.depth machine.context moves
    simp only [next, current] at succeeds
    exact (inspects.of_run_ok succeeds).1
  · intro not_ret
    rcases does.onward not_call not_ret with rfl | ⟨offset, rfl⟩
    · exact ⟨machine.current.offset + 1, by simp only [step, succeeds]⟩
    · exact ⟨offset, by simp only [step, succeeds]⟩
  · intro opcode_eq
    rcases does.gives_of_ret opcode_eq with ⟨value, rfl⟩
    exact ⟨value, by simp only [step, succeeds]⟩

/-- A program that puts an address into a list. -/
def linkingListProgram : Program where
  imports := []
  constants := []
  vars := [⟨0, "result", .hidden⟩, ⟨1, "list", .hidden⟩]
  functions := [⟨0, "main", .exported⟩]
  instructions := #[
    .make .label [.label 0],
    .make .newList [.variable 1],
    .make .setListSlot [.variable 1, .literal (.number .zero), .literal (.number .one)]]

theorem instruction_locality_linkingListProgram :
    ∃ initial machine instruction after handle,
      (Engine.ofProgram linkingListProgram).start Engine.mainEntry none true = .running initial ∧
        initial.run Host.empty 2 = .running machine ∧
        machine.current.instruction? = some instruction ∧ instruction.opcode = .setListSlot ∧
        machine.next Host.empty = (.ok .next, after) ∧
        machine.context.SameBut (some (.list handle)) after ∧
        instruction.Targets machine.context (.list handle) := by
  have states : ∃ initial machine instruction after,
      (Engine.ofProgram linkingListProgram).start Engine.mainEntry none true = .running initial ∧
        initial.run Host.empty 2 = .running machine ∧
        machine.current.instruction? = some instruction ∧ instruction.opcode = .setListSlot ∧
        machine.next Host.empty = (.ok .next, after) ∧
        machine.shared.memory.lists.size = 1 ∧ machine.shared.memory.slots ⟨0⟩ = #[] ∧
        (after.shared.memory.slots ⟨0⟩).size = 1 :=
    ⟨_, _, _, _, rfl, rfl, rfl, rfl, rfl, rfl, rfl, by decide +kernel⟩
  rcases states with ⟨initial, machine, instruction, after, starts, runs, current, opcode_eq,
    succeeds, size_eq, empty, filled⟩
  have not_call : instruction.opcode ≠ .call := by simp [opcode_eq]
  rcases (instruction_locality current not_call succeeds).1 with ⟨changed, same, named⟩
  have existed : (Place.list ⟨0⟩).ExistsIn machine.context :=
    Nat.lt_of_lt_of_eq Nat.zero_lt_one size_eq.symm
  -- The list has changed, so that it is the place which is excepted.
  have changed_eq : changed = some (.list ⟨0⟩) := by
    apply Classical.byContradiction
    intro different
    have unchanged : after.shared.memory.slots ⟨0⟩ = #[] :=
      Eq.trans (same.others _ existed (Ne.symm different)) empty
    rw [unchanged] at filled
    cases filled
  rw [changed_eq] at same
  exact ⟨initial, machine, instruction, after, ⟨0⟩, starts, runs, current, opcode_eq, succeeds,
    same, (named _ changed_eq).2⟩

end Machine

end ScriptMachine
