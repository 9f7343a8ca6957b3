import ScriptMachine.Proofs.Arguments.Passing

/-!
# Access to arguments

How the arguments of an execution are found when their places have been spared.  Functions of the
host are passed them in order, by every call that names one.  Programs make a pointer from register
zero, ask the list behind it for the address at an index and make another pointer from that.  The
second pointer reads as the argument at the index, or is null behind the last.
-/

namespace ScriptMachine

/-! ## Calls of the host -/

namespace Instruction

variable {host : Host} {context : Context} {cells : ArgumentCells} {values : List Value}
  {id : NativeId} {function : NativeFunction}

theorem achieves_callArguments (held : cells.Hold values context.shared) :
    callArguments.Achieves context .none values := by
  apply (inspects_callArguments context).achieves
  rw [fst_callArguments, held.register_eq]
  simp only [held.list_eq, Value.asList, held.slots_eq, List.map_map]
  exact congrArg Except.ok held.values_eq

theorem achieves_callNative (name : String) (registered : host.native? id = some function)
    (held : cells.Hold values context.shared) :
    (callNative host name id).Achieves context .none (.callNative name id function values) := by
  rw [callNative, registered]
  apply (achieves_callArguments held).bind
  intro after _
  exact Task.achieves_pure _

/-- A call that names a function of the host hands over the arguments. -/
theorem exists_achieves_call {callee : Operand} (depth : Nat)
    (named : callee.Names context (.native id)) (registered : host.native? id = some function)
    (held : cells.Hold values context.shared) :
    ∃ name, (call host depth callee).Achieves context .none
      (.callNative name id function values) := by
  cases named with
  | @text name _ evaluated named =>
      refine ⟨name, ?_⟩
      unfold call
      split
      · cases evaluated
      · apply (Operand.achieves_load evaluated).bind
        intro after padded
        apply Task.Achieves.bind ⟨after, .refl after, rfl⟩
        intro afterGet padded'
        rw [padded.growsTo.registry_eq, named]
        exact achieves_callNative name registered (held.of_paddedTo (padded.trans padded'))
  | native evaluated =>
      refine ⟨s!"native#{id.index}", ?_⟩
      unfold call
      split
      · cases evaluated
      · apply (Operand.achieves_load evaluated).bind
        intro after padded
        exact achieves_callNative _ registered (held.of_paddedTo padded)

end Instruction

namespace Machine

variable {machine : Machine} {cells : ArgumentCells} {values : List Value}

/-! ## Finding arguments -/

/-- Functions of the host and the current program find the arguments. -/
structure FindsArguments (machine : Machine) (cells : ArgumentCells) (values : List Value) :
    Prop where
  /-- A function of the host that is called is applied to them. -/
  native : ∀ (host : Host) (target callee : Operand) (id : NativeId) (function : NativeFunction),
    machine.ContinuesWith [(.call, [target, callee])] →
    callee.Names machine.context (.native id) → host.native? id = some function →
    ∃ name after, machine.context.PaddedTo after ∧
      machine.step host = (machine.withContext after).invoke name function values
  /-- A pointer that is made from register zero is bound to their list. -/
  pointed : ∀ (host : Host) (pointer : UInt64),
    machine.ContinuesWith [(.makePointer, [.variable pointer, .register 0])] →
    ∃ next binding, machine.step host = .running next ∧
      next.current.scope.vars.get? pointer.toNat = some binding ∧ binding.target = some cells.list
  /-- A pointer that is made from the address at an index of their list reads as the argument at the
  index.  On its way the address must not be written over the argument. -/
  element : ∀ (host : Host) (pointer target : UInt64) (index place : Operand)
      (binding : Binding Address) (position : Nat) (value : Value),
    machine.ContinuesWith
      [(.listSlotAddress, [place, .variable pointer, index]),
        (.makePointer, [.variable target, place])] →
    machine.current.scope.vars.get? pointer.toNat = some binding →
    binding.target = some cells.list → index.Indexes machine.context position →
    place.IsPlace machine.current.scope →
    place.cell? machine.current.scope ≠ cells.elements[position]? →
    values[position]? = some value →
    ∃ after, machine.run host 2 = .running after ∧
      (Operand.variable target).evaluate after.context = .ok value
  /-- Behind the last argument the pointer is null. -/
  beyond : ∀ (host : Host) (pointer target : UInt64) (index place : Operand)
      (binding : Binding Address) (position : Nat),
    machine.ContinuesWith
      [(.listSlotAddress, [place, .variable pointer, index]),
        (.makePointer, [.variable target, place])] →
    machine.current.scope.vars.get? pointer.toNat = some binding →
    binding.target = some cells.list → index.Indexes machine.context position →
    place.IsPlace machine.current.scope → values.length ≤ position →
    ∃ after binding, machine.run host 2 = .running after ∧
      after.current.scope.vars.get? target.toNat = some binding ∧ binding.target = none

variable (host : Host)

theorem exists_invoke {target callee : Operand} {id : NativeId} {function : NativeFunction}
    (held : cells.Hold values machine.shared)
    (continues : machine.ContinuesWith [(.call, [target, callee])])
    (named : callee.Names machine.context (.native id))
    (registered : host.native? id = some function) :
    ∃ name after, machine.context.PaddedTo after ∧
      machine.step host = (machine.withContext after).invoke name function values := by
  rcases continues with ⟨⟨instruction, current, is⟩, -⟩
  rcases Instruction.exists_achieves_call machine.current.depth named registered held with
    ⟨name, after, padded, run⟩
  have next_eq : machine.next host = (.ok (.callNative name id function values), after) := by
    rw [next, Activation.instruction?, current]
    dsimp only
    rw [Instruction.perform, is.opcode_eq, is.operand_eq 1 _ rfl]
    exact run
  refine ⟨name, after, padded, ?_⟩
  rw [step, next_eq]

theorem exists_pointed {pointer : UInt64} (held : cells.Hold values machine.shared)
    (indexable : cells.Indexable)
    (continues : machine.ContinuesWith [(.makePointer, [.variable pointer, .register 0])]) :
    ∃ next binding, machine.step host = .running next ∧
      next.current.scope.vars.get? pointer.toNat = some binding ∧
      binding.target = some cells.list := by
  have code_eq := Address.code_ofRaw? (machine.shared.registers.get 0)
  have positive := cells.list.positive
  have small := indexable.index_le _ List.mem_cons_self
  rw [held.register_eq, Address.code] at code_eq
  have raw_eq : (machine.shared.registers.get 0).toInt = Address.code (some cells.list) := by
    rw [Address.code]
    omega
  have code_small : (Address.code (some cells.list)).natAbs ≤ Binary64.exactBound := small
  have loaded_eq := Binary64.toInt_toInt64_ofInt code_small
  rw [← raw_eq] at loaded_eq
  generalize converted :
    (Binary64.ofInt (machine.shared.registers.get 0).toInt).toInt64 = raw at loaded_eq
  have evaluated : (Operand.register 0).evaluate machine.context =
      .ok (.number (.ofInt (machine.shared.registers.get 0).toInt)) := rfl
  rcases exists_step host continues fun instruction is =>
      is.achieves_makePointer host _ (by simp) evaluated (congrArg Except.ok converted) with
    ⟨last, next, -, stepped, next_eq, -⟩
  rw [Address.ofRaw?_eq (loaded_eq.trans raw_eq)] at next_eq
  rcases exists_pointer_of_context_eq next_eq with ⟨binding, found, target_eq⟩
  exact ⟨next, binding, stepped, found, target_eq⟩

section

variable {pointer target : UInt64} {index place : Operand} {binding : Binding Address}
  {position : Nat}

/-- The slot at an index is asked for and made a pointer. -/
theorem exists_run_makePointer_listSlotAddress (held : cells.Hold values machine.shared)
    (indexable : cells.Indexable)
    (continues : machine.ContinuesWith
      [(.listSlotAddress, [place, .variable pointer, index]),
        (.makePointer, [.variable target, place])])
    (bound : machine.current.scope.vars.get? pointer.toNat = some binding)
    (target_eq : binding.target = some cells.list)
    (indexes : index.Indexes machine.context position)
    (isPlace : place.IsPlace machine.current.scope) :
    ∃ effect middle last after,
      place.Receives machine.current.scope (.ofAddress cells.elements[position]?) effect ∧
        machine.context.PaddedTo middle ∧ (effect.apply middle).PaddedTo last ∧
        machine.run host 2 = .running after ∧
        after.context = (Effect.pointer target cells.elements[position]?).apply last := by
  have evaluated : (Operand.variable pointer).evaluate machine.context =
      .ok (.list cells.handle) := by
    have bound : machine.context.scope.vars.get? pointer.toNat = some binding := bound
    simp only [Operand.evaluate, bound, target_eq]
    exact congrArg Except.ok held.list_eq
  have slot_eq : machine.shared.memory.slot cells.handle (min position Operand.lastIndex) =
      cells.elements[position]? := by
    have length_le := indexable.length_le
    rw [held.slot_eq]
    rcases Nat.le_total position Operand.lastIndex with inside | outside
    · rw [Nat.min_eq_left inside]
    · rw [Nat.min_eq_right outside, List.getElem?_eq_none length_le,
        List.getElem?_eq_none (Nat.le_trans length_le outside)]
  have small : ∀ address, cells.elements[position]? = some address →
      address.index ≤ Binary64.exactBound := fun address found =>
    indexable.index_le address (List.mem_cons_of_mem _ (List.mem_of_getElem? found))
  apply exists_run_makePointer continues small isPlace
  intro effect receives not_dropped instruction is
  rw [← slot_eq] at receives
  exact is.achieves_listSlotAddress host _ evaluated indexes receives not_dropped

theorem exists_run_element {value : Value} (held : cells.Hold values machine.shared)
    (indexable : cells.Indexable)
    (continues : machine.ContinuesWith
      [(.listSlotAddress, [place, .variable pointer, index]),
        (.makePointer, [.variable target, place])])
    (bound : machine.current.scope.vars.get? pointer.toNat = some binding)
    (target_eq : binding.target = some cells.list)
    (indexes : index.Indexes machine.context position)
    (isPlace : place.IsPlace machine.current.scope)
    (elsewhere : place.cell? machine.current.scope ≠ cells.elements[position]?)
    (found : values[position]? = some value) :
    ∃ after, machine.run host 2 = .running after ∧
      (Operand.variable target).evaluate after.context = .ok value := by
  rcases exists_run_makePointer_listSlotAddress host held indexable continues bound
    target_eq indexes isPlace with
    ⟨effect, middle, last, after, receives, padded, padded', runs, after_eq⟩
  rw [← held.values_eq, List.getElem?_map] at found
  rcases Option.map_eq_some_iff.mp found with ⟨element, element_eq, rfl⟩
  rw [element_eq] at elsewhere after_eq
  -- Storing the address has not written over the argument.
  have different : some (.cell element) ≠ effect.place? := by
    intro place_eq
    have named := receives.place?_eq place_eq.symm
    apply elsewhere
    cases isPlace with
    | register => cases named
    | cell bound =>
        rw [bound]
        simp only [Operand.place?, bound, Option.map_some, Option.some.injEq,
          Place.cell.injEq] at named
        rw [named]
  have same : (effect.apply middle).shared.memory.lookup element =
      middle.shared.memory.lookup element := effect.sameIn_apply middle different
  have lookup_eq : last.shared.memory.lookup element = machine.shared.memory.lookup element :=
    (padded'.memory.lookup_eq element).trans (same.trans (padded.memory.lookup_eq element))
  rcases last.scope.get?_point target (some element) with ⟨pointed, pointed_eq, target_eq⟩
  refine ⟨after, runs, ?_⟩
  rw [after_eq]
  simp only [Operand.evaluate, Effect.apply, pointed_eq, target_eq]
  exact congrArg Except.ok lookup_eq

theorem exists_run_beyond (held : cells.Hold values machine.shared) (indexable : cells.Indexable)
    (continues : machine.ContinuesWith
      [(.listSlotAddress, [place, .variable pointer, index]),
        (.makePointer, [.variable target, place])])
    (bound : machine.current.scope.vars.get? pointer.toNat = some binding)
    (target_eq : binding.target = some cells.list)
    (indexes : index.Indexes machine.context position)
    (isPlace : place.IsPlace machine.current.scope) (behind : values.length ≤ position) :
    ∃ after pointed, machine.run host 2 = .running after ∧
      after.current.scope.vars.get? target.toNat = some pointed ∧ pointed.target = none := by
  rcases exists_run_makePointer_listSlotAddress host held indexable continues bound
    target_eq indexes isPlace with ⟨effect, middle, last, after, -, -, -, runs, after_eq⟩
  rw [List.getElem?_eq_none (Nat.le_trans (Nat.le_of_eq held.length_eq) behind)] at after_eq
  rcases exists_pointer_of_context_eq after_eq with ⟨pointed, found, target_eq⟩
  exact ⟨after, pointed, runs, found, target_eq⟩

end

/-- Where arguments are held they are found. -/
theorem findsArguments (held : cells.Hold values machine.shared) (indexable : cells.Indexable) :
    machine.FindsArguments cells values where
  native host _ _ _ _ continues named registered :=
    exists_invoke host held continues named registered
  pointed host _ continues := exists_pointed host held indexable continues
  element host _ _ _ _ _ _ _ continues bound target_eq indexes isPlace elsewhere found :=
    exists_run_element host held indexable continues bound target_eq indexes isPlace elsewhere found
  beyond host _ _ _ _ _ _ continues bound target_eq indexes isPlace behind :=
    exists_run_beyond host held indexable continues bound target_eq indexes isPlace behind

end Machine

namespace Engine

/-- When a program has been linked with arguments, they are in cells of their own that register zero
leads to.  Wherever the execution comes without overwriting the places on the way to them, functions
of the host and the program that is running find them, and so does every machine in which they are
held. -/
theorem arguments_arrive {engine : Engine} {values : List Value} {fresh : Bool}
    {linked : Context}
    (links : engine.program.link engine.host (some values) fresh engine.shared = (.ok (), linked))
    (small : linked.shared.memory.size ≤ indexableCells) :
    ∃ cells, linked.HasArguments values cells ∧
      (∀ machine : Machine, cells.Hold values machine.shared →
        machine.FindsArguments cells values) ∧
      ∀ entry initial machine, engine.start entry (some values) fresh = .running initial →
        initial.RunsSparing engine.host cells.places machine →
        cells.Hold values machine.shared ∧ machine.FindsArguments cells values := by
  rcases Program.exists_hasArguments_of_link links small with ⟨cells, has⟩
  refine ⟨cells, has, fun machine held => machine.findsArguments held has.indexable, ?_⟩
  intro entry initial machine starts runs
  rcases exists_linked_of_start starts with ⟨linked', offset, links', -, rfl⟩
  cases links.symm.trans links'
  have held : cells.Hold values machine.context.shared := by
    apply has.hold.of_keptIn
    intro place member
    have isShared := ArgumentCells.isShared_of_mem_places member
    exact runs.keptIn member isShared (has.existed place member)
  exact ⟨held, machine.findsArguments held has.indexable⟩

/-- A function of the host that gives back its first argument. -/
def firstArgument : NativeFunction :=
  fun arguments memory => (.ok (arguments.headD .none), memory)

/-- An engine whose program calls a function of the host. -/
def askingEngine : Engine where
  program :=
    { imports := []
      constants := []
      vars := [⟨0, "result", .exported⟩]
      functions := [⟨0, "main", .exported⟩]
      instructions := #[
        .make .label [.label 0],
        .make .call [.variable 0, .literal (.text "first")]] }
  host := { Host.empty with natives := #[firstArgument], functions := [("first", ⟨0⟩)] }
  shared := .empty
  scope := .empty

theorem arguments_arrive_askingEngine :
    ∃ initial machine name after,
      askingEngine.start mainEntry (some [.text "passed", .none]) true = .running initial ∧
        initial.step askingEngine.host = .running machine ∧
        machine.step askingEngine.host =
          (machine.withContext after).invoke name firstArgument [.text "passed", .none] := by
  have states : ∃ linked initial machine context,
      askingEngine.program.link askingEngine.host (some [.text "passed", .none]) true
        askingEngine.shared = (.ok (), linked) ∧
        linked.shared.memory.size ≤ indexableCells ∧
        askingEngine.start mainEntry (some [.text "passed", .none]) true = .running initial ∧
        initial.step askingEngine.host = .running machine ∧
        initial.next askingEngine.host = (.ok .next, context) ∧
        initial.current.instruction? = some (.make .label [.label 0]) ∧
        machine.current.program = askingEngine.program ∧ machine.current.offset = 1 ∧
        machine.shared.registry.get? "first" = some (.native ⟨0⟩) :=
    ⟨_, _, _, _, rfl, by decide, rfl, rfl, rfl, rfl, rfl, rfl, rfl⟩
  rcases states with ⟨linked, initial, machine, context, links, small, starts, stepped, succeeds,
    current, program_eq, offset_eq, registered⟩
  rcases arguments_arrive links small with ⟨cells, -, -, arrive⟩
  -- The first step only passes a label.
  have runs : initial.RunsSparing askingEngine.host cells.places machine := by
    apply Machine.RunsSparing.step .start stepped
    intro place _ overwrites
    cases overwrites with
    | instruction current' targets =>
        cases current.symm.trans current'
        cases targets with
        | register stores | cell stores => cases stores
        | binding opcode_eq | list opcode_eq => cases opcode_eq
    | function invokes | functionResult invokes => cases succeeds.symm.trans invokes
    | labelResult ends | libraryResult ends => cases ends _ current
  rcases arrive mainEntry initial machine starts runs with ⟨-, finds⟩
  have continues : machine.ContinuesWith
      [(.call, [.variable 0, .literal (.text "first")])] := by
    rw [Machine.ContinuesWith, program_eq, offset_eq]
    refine ⟨⟨_, rfl, rfl, ?_⟩, trivial⟩
    rintro (_ | _ | _) _ ⟨⟩ <;> rfl
  rcases finds.native askingEngine.host (.variable 0) (.literal (.text "first")) ⟨0⟩ firstArgument
    continues (.text rfl registered) rfl with ⟨name, after, -, invoked⟩
  exact ⟨initial, machine, name, after, starts, stepped, invoked⟩

end Engine

end ScriptMachine
