import ScriptMachine.Proofs.Isolation.Calls
import ScriptMachine.Proofs.Link.Layout

/-!
# Arguments of library functions

A caller leaves the arguments of a call in a list and the address of the list in register zero.
Between the call of a library function and the function's first instruction a whole program is
linked, in the memory and with the registers that the caller has.  Linking writes neither: it only
puts declarations into new cells.  The function therefore finds the arguments that the caller has
left, as a function of the host would have found them at the call.

Arguments that lie outside of memory are the exception.  They are empty at the call, but their
cells are among the first that declarations get.
-/

namespace ScriptMachine

/-! ## Reading arguments -/

/-- The cells that lead to the arguments and those of the arguments are in memory. -/
def Context.ArgumentsInside (context : Context) : Prop :=
  ∀ address, Address.ofRaw? (context.shared.registers.get 0) = some address →
    address.index < context.shared.memory.size ∧
      ∀ handle, context.shared.memory.lookup address = .list handle →
        ∀ element, some element ∈ (context.shared.memory.slots handle).toList →
          element.index < context.shared.memory.size

namespace Instruction

/-- What the values of a call are, or why there are none. -/
theorem fst_callArguments (context : Context) :
    (callArguments.run context).1 =
      match Address.ofRaw? (context.shared.registers.get 0) with
      | none => .ok []
      | some address =>
          match (context.shared.memory.lookup address).asList with
          | .ok handle =>
              .ok ((context.shared.memory.slots handle).toList.map context.shared.memory.lookupSlot)
          | .error mismatch => .error (.typeMismatch mismatch) := by
  simp only [callArguments, Task.run_bind, Task.run_get]
  cases Address.ofRaw? (context.shared.registers.get 0) with
  | none => rfl
  | some address =>
      have padded := context.shared.memory.paddedTo_extend address
      have lookupSlot_eq : (context.shared.memory.extend address).lookupSlot =
          context.shared.memory.lookupSlot := funext padded.lookupSlot_eq
      simp only [Context.onMemory, Task.run_bind, Task.run_within, Memory.run_listAt]
      cases (context.shared.memory.lookup address).asList with
      | error mismatch => rfl
      | ok handle =>
          simp only [Task.run_ofUpdate, Context.withMemory, Memory.elements, Memory.fst_readSlots,
            padded.slots_eq, lookupSlot_eq]

/-- Arguments in cells that stay as they are are the same. -/
theorem fst_callArguments_of_preserves {before after : Context}
    (registers_eq : after.shared.registers = before.shared.registers)
    (preserves : before.shared.memory.Preserves after.shared.memory)
    (slots_eq : ∀ handle, after.shared.memory.slots handle = before.shared.memory.slots handle)
    (inside : before.ArgumentsInside) :
    (callArguments.run after).1 = (callArguments.run before).1 := by
  rw [fst_callArguments, fst_callArguments, registers_eq]
  cases address_eq : Address.ofRaw? (before.shared.registers.get 0) with
  | none => rfl
  | some address =>
      rcases inside address address_eq with ⟨address_lt, elements_lt⟩
      simp only [preserves.lookup_eq address address_lt]
      cases value_eq : before.shared.memory.lookup address with
      | list handle =>
          simp only [Value.asList, slots_eq]
          apply congrArg Except.ok
          apply List.map_congr_left
          intro slot member
          cases slot with
          | none => rfl
          | some element =>
              exact preserves.lookup_eq element (elements_lt handle value_eq element member)
      | _ => rfl

end Instruction

/-! ## Entering a function -/

/-- Linking a library writes no register and no list, and no cell that there was. -/
theorem Program.store_of_link {program : Program} {host : Host} {shared : SharedState}
    {linked : Context} (links : program.link host none false shared = (.ok (), linked)) :
    linked.shared.registers = shared.registers ∧ shared.memory.Preserves linked.shared.memory ∧
      ∀ handle, linked.shared.memory.slots handle = shared.memory.slots handle := by
  rcases exists_declared_of_link links with ⟨imported, memory_eq, registers_eq, rfl⟩
  rw [← memory_eq]
  refine ⟨registers_eq, preserves_declare imported, ?_⟩
  intro handle
  rw [Memory.slots, Memory.slots]
  exact congrArg (fun lists => (lists.get? handle.index).getD #[]) (program.lists_declare imported)

namespace Machine

variable {host : Host} {machine entered : Machine} {program : Program} {label : UInt64}
  {context : Context}

/-- At the first instruction of a library function the registers, the lists and the cells that
there were at its call are the same, and so are the arguments, unless some lie outside of memory. -/
theorem library_entry_arguments
    (calls : machine.next host = (.ok (.callLibrary program label), context))
    (stepped : machine.step host = .running entered) :
    entered.current.program = program ∧
      entered.shared.registers = machine.shared.registers ∧
      machine.shared.memory.Preserves entered.shared.memory ∧
      (machine.context.ArgumentsInside →
        (Instruction.callArguments.run entered.context).1 =
          (Instruction.callArguments.run machine.context).1) := by
  have growth := (performs_of_next calls).growsTo (by simp)
  rcases enters_of_callLibrary calls stepped with ⟨linked, offset, links, rfl⟩
  rcases Program.store_of_link links with ⟨registers_eq, preserves, slots_eq⟩
  have registers_kept := registers_eq.trans growth.registers_eq
  have memory_kept := growth.memory.preserves.trans preserves
  refine ⟨rfl, registers_kept, memory_kept, ?_⟩
  apply Instruction.fst_callArguments_of_preserves registers_kept memory_kept
  intro handle
  exact (slots_eq handle).trans (growth.memory.slots_eq handle)

/-- A program that is passed arguments and calls a library finds them there. -/
theorem library_entry_arguments_listingEngine :
    ∃ initial machine entered,
      listingEngine.start Engine.mainEntry (some [.text "passed"]) false = .running initial ∧
        initial.run Host.empty 1 = .running machine ∧
        machine.step Host.empty = .running entered ∧
        (Instruction.callArguments.run machine.context).1 = .ok [.text "passed"] ∧
        (Instruction.callArguments.run entered.context).1 = .ok [.text "passed"] := by
  have states : ∃ initial machine called entered address element,
      listingEngine.start Engine.mainEntry (some [.text "passed"]) false = .running initial ∧
        initial.run Host.empty 1 = .running machine ∧
        machine.next Host.empty = (.ok (.callLibrary listLibrary.program 0), called) ∧
        machine.step Host.empty = .running entered ∧
        Address.ofRaw? (machine.shared.registers.get 0) = some address ∧
        address.index < machine.shared.memory.size ∧
        machine.shared.memory.lookup address = .list ⟨0⟩ ∧
        machine.shared.memory.slots ⟨0⟩ = #[some element] ∧
        element.index < machine.shared.memory.size ∧
        (Instruction.callArguments.run machine.context).1 = .ok [.text "passed"] :=
    ⟨_, _, _, _, _, _, rfl, rfl, rfl, rfl, rfl, by decide +kernel, rfl, rfl, by decide +kernel, rfl⟩
  rcases states with ⟨initial, machine, called, entered, address, element, starts, runs, calls,
    stepped, address_eq, address_lt, list_eq, slots_eq, element_lt, passed⟩
  have inside : machine.context.ArgumentsInside := by
    intro other other_eq
    cases address_eq.symm.trans other_eq
    refine ⟨address_lt, ?_⟩
    intro handle found
    cases list_eq.symm.trans found
    rintro other member
    rw [context, slots_eq] at member
    cases Option.some.inj (List.mem_singleton.mp member)
    exact element_lt
  rcases library_entry_arguments calls stepped with ⟨-, -, -, arguments_eq⟩
  exact ⟨initial, machine, entered, starts, runs, stepped, passed,
    (arguments_eq inside).trans passed⟩

end Machine

end ScriptMachine
