import ScriptMachine.Proofs.Machine.Effect

/-!
# Callees

What a call enters.  A callee that is not a label names at most one function, of the host or of a
library, and a call is `Instruction.Enterable` if it names a label that is bound or a function of
a library that is loaded.

Room for a call is checked when all else about its callee is known, so that a call whose callee
can be entered is refused only for want of room, and always then.
-/

namespace ScriptMachine

/-! ## Names -/

namespace Operand.Names

variable {context : Context} {callee : Operand} {linked other : Linked}

theorem not_label (named : callee.Names context linked) (label : UInt64) :
    callee ≠ .label label := by
  rintro rfl
  cases named with
  | text evaluated | native evaluated | function evaluated => cases evaluated

/-- A callee names one function only. -/
theorem unique (named : callee.Names context linked) (otherNamed : callee.Names context other) :
    linked = other := by
  have same {value value' : Value} (evaluated : callee.evaluate context = .ok value)
      (evaluated' : callee.evaluate context = .ok value') : value = value' :=
    Except.ok.inj (evaluated.symm.trans evaluated')
  cases named with
  | text evaluated found =>
      cases otherNamed with
      | text evaluated' found' =>
          cases same evaluated evaluated'
          exact Option.some.inj (found.symm.trans found')
      | native evaluated' | function evaluated' => cases same evaluated evaluated'
  | native evaluated =>
      cases otherNamed with
      | native evaluated' =>
          cases same evaluated evaluated'
          rfl
      | text evaluated' | function evaluated' => cases same evaluated evaluated'
  | function evaluated =>
      cases otherNamed with
      | function evaluated' =>
          cases same evaluated evaluated'
          rfl
      | text evaluated' | native evaluated' => cases same evaluated evaluated'

end Operand.Names

/-! ## Room for calls -/

namespace Instruction

/-- The callee is a label that is bound or a function of a library that is loaded. -/
inductive Enterable (instruction : Instruction) (context : Context) : Prop where
  | label {label : UInt64} {offset : Nat} (operand_eq : instruction.operand 1 = .label label)
      (bound : context.scope.labelOffset? label = some offset)
  | library {reference : FunctionReference} {library : Library}
      (named : (instruction.operand 1).Names context (.library reference))
      (loaded : context.shared.libraries.get? reference.library = some library)

variable {instruction : Instruction} {host : Host} {depth : Nat} {context : Context}

/-- A call that is entered is not too deep. -/
theorem Does.depth_lt_of_callLabel {offset : Nat} {effect : Effect}
    (does : instruction.Does host depth context (.callLabel offset) effect) :
    depth + 1 < host.maxDepth := by
  cases does with
  | call opcode_eq calls =>
      cases calls with
      | label operand_eq bound depth_lt => exact depth_lt

theorem Does.depth_lt_of_callLibrary {program : Program} {label : UInt64} {effect : Effect}
    (does : instruction.Does host depth context (.callLibrary program label) effect) :
    depth + 1 < host.maxDepth := by
  cases does with
  | call opcode_eq calls =>
      cases calls with
      | library named loaded depth_lt => exact depth_lt

theorem Refuses.of_stackOverflow (refuses : instruction.Refuses host depth context .stackOverflow) :
    instruction.Enterable context ∧ host.maxDepth ≤ depth + 1 := by
  cases refuses with
  | operand ofOperand => exact ofOperand.elim
  | labelTooDeep opcode_eq operand_eq bound depth_ge => exact ⟨.label operand_eq bound, depth_ge⟩
  | libraryTooDeep opcode_eq named loaded depth_ge => exact ⟨.library named loaded, depth_ge⟩

theorem checkDepth_ends {result : Unit → Context → Prop} {refusal : Fault → Context → Prop}
    (depth_ge : host.maxDepth ≤ depth + 1) (refused : refusal .stackOverflow context) :
    (checkDepth host depth).Ends context result refusal := by
  rw [checkDepth, if_pos depth_ge]
  exact (Task.ends_throw _).mpr refused

theorem callLibrary_ends {reference : FunctionReference} {library : Library}
    (loaded : context.shared.libraries.get? reference.library = some library)
    (depth_ge : host.maxDepth ≤ depth + 1) :
    (callLibrary host depth reference).Ends context (fun _ _ => False)
      (fun cause _ => cause = .stackOverflow) := by
  apply Task.ends_bind.mpr (Task.ends_get.mpr _)
  rw [loaded]
  exact Task.ends_bind.mpr (checkDepth_ends depth_ge rfl)

/-- What follows a load is judged for the value that the operand evaluates to. -/
theorem ends_load_bind {α : Type} {operand : Operand} {value : Value}
    {next : Value → Task Context α} {result : α → Context → Prop} {refusal : Fault → Context → Prop}
    (evaluated : operand.evaluate context = .ok value)
    (ends : ∀ after, context.PaddedTo after → (next value).Ends after result refusal) :
    (operand.load >>= next).Ends context result refusal := by
  have run := operand.run_load context
  rw [evaluated] at run
  apply Task.ends_bind.mpr ((Task.ends_iff_of_run_ok run).mpr _)
  exact ends _ (.withMemory (Memory.paddedTo_extendSlot _ _))

/-- A callee that could be entered is refused for want of room only. -/
theorem call_ends_of_tooDeep (enterable : instruction.Enterable context)
    (depth_ge : host.maxDepth ≤ depth + 1) :
    (call host depth (instruction.operand 1)).Ends context (fun _ _ => False)
      (fun cause _ => cause = .stackOverflow) := by
  cases enterable with
  | label operand_eq bound =>
      rw [operand_eq]
      apply Task.ends_bind.mpr (Task.ends_bind.mpr (Task.ends_get.mpr _))
      rw [Scope.labelOffset?] at bound
      rw [bound]
      apply (Task.ends_pure _).mpr
      exact Task.ends_bind.mpr (checkDepth_ends depth_ge rfl)
  | library named loaded =>
      have registered {after : Context} (padded : context.PaddedTo after) :=
        padded.growsTo.libraries_eq ▸ loaded
      unfold call
      split
      · rename_i label operand_eq
        rw [operand_eq] at named
        cases named with
        | text evaluated | function evaluated => cases evaluated
      · cases named with
        | text evaluated found =>
            apply ends_load_bind evaluated
            intro after padded
            apply Task.ends_bind.mpr (Task.ends_get.mpr _)
            rw [padded.growsTo.registry_eq, found]
            exact callLibrary_ends (registered padded) depth_ge
        | function evaluated =>
            apply ends_load_bind evaluated
            intro after padded
            exact callLibrary_ends (registered padded) depth_ge

end Instruction

theorem Instruction.Enterable.not_native {instruction : Instruction} {context : Context}
    (enterable : instruction.Enterable context) (id : NativeId) :
    ¬(instruction.operand 1).Names context (.native id) := by
  intro native
  cases enterable with
  | label operand_eq => exact native.not_label _ operand_eq
  | library named => cases native.unique named

end ScriptMachine
