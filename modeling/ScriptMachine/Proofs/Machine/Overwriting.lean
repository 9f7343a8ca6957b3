import ScriptMachine.Proofs.Isolation.Arguments
import ScriptMachine.Proofs.Machine.Locality

/-!
# Overwriting

What is in the registers, the cells and the lists at some time is there until it is overwritten.  A
step can overwrite a place by its instruction, by a function of the host, which can do to memory
what it wants, and by the result of a call that ends.  Linking a library and the growth of memory
overwrite nothing, and control is moved without a trace.

A run that spares places is one of whose steps none overwrites them.  It can be followed through
calls of any depth, since all programs of an execution share the places that are meant here; the
bindings of variables are left out, which belong to one scope each.
-/

namespace ScriptMachine

/-! ## Places that are kept -/

namespace Place

/-- Places that all programs of an execution share. -/
def IsShared : Place → Prop
  | .register _ | .cell _ | .list _ => True
  | .binding _ => False

/-- A place still exists, and what is there is the same. -/
def KeptIn (before after : Context) (place : Place) : Prop :=
  place.ExistsIn after ∧ place.SameIn before after

variable {before middle after : Context} {place : Place}

theorem KeptIn.refl (existed : place.ExistsIn before) : place.KeptIn before before := by
  refine ⟨existed, ?_⟩
  cases place <;> rfl

theorem KeptIn.trans (first : place.KeptIn before middle) (second : place.KeptIn middle after) :
    place.KeptIn before after :=
  ⟨second.1, first.2.trans second.2⟩

/-- Scopes do not matter for places that are shared. -/
theorem IsShared.keptIn_of_shared_eq (isShared : place.IsShared) (existed : place.ExistsIn before)
    (shared_eq : after.shared = before.shared) : place.KeptIn before after := by
  cases place with
  | register index => exact ⟨trivial, by rw [SameIn, shared_eq]⟩
  | cell address =>
      rw [KeptIn, ExistsIn, SameIn, shared_eq]
      exact ⟨existed, rfl⟩
  | list handle =>
      rw [KeptIn, ExistsIn, SameIn, shared_eq]
      exact ⟨existed, rfl⟩
  | binding => cases isShared

end Place

namespace Context

variable {before after : Context} {place : Place}

theorem GrowsTo.keptIn (growth : before.GrowsTo after) (existed : place.ExistsIn before) :
    place.KeptIn before after :=
  ⟨existed.grow growth, growth.sameIn existed⟩

/-- Growth with one effect elsewhere. -/
theorem GrowsTo.keptIn_apply (growth : before.GrowsTo after) (existed : place.ExistsIn before)
    {effect : Effect} (different : some place ≠ effect.place?) :
    place.KeptIn before (effect.apply after) := by
  have sizes := effect.size_le_apply after
  apply (growth.keptIn existed).trans
  refine ⟨?_, effect.sameIn_apply after different⟩
  have existed := existed.grow growth
  cases place with
  | register | binding => trivial
  | cell => exact Nat.lt_of_lt_of_le existed sizes.1
  | list => exact Nat.lt_of_lt_of_le existed sizes.2

end Context

/-- Linking a library keeps everything that programs share. -/
theorem Program.keptIn_of_link {program : Program} {host : Host} {context linked : Context}
    {place : Place} (links : program.link host none false context.shared = (.ok (), linked))
    (isShared : place.IsShared) (existed : place.ExistsIn context) :
    place.KeptIn context linked := by
  rcases store_of_link links with ⟨registers_eq, preserves, slots_eq⟩
  cases place with
  | register index => exact ⟨trivial, by rw [Place.SameIn, registers_eq]⟩
  | cell address =>
      exact ⟨Nat.lt_of_lt_of_le existed preserves.size_le, preserves.lookup_eq address existed⟩
  | list handle =>
      exact ⟨Nat.lt_of_lt_of_le existed preserves.lists_size_le, slots_eq handle⟩
  | binding => cases isShared

/-- The place to which an operand stores. -/
def Operand.place? (scope : Scope) : Operand → Option Place
  | .register index => some (.register index)
  | operand => (operand.cell? scope).map .cell

theorem Operand.Receives.place?_eq {scope : Scope} {operand : Operand} {value : Value}
    {effect : Effect} {place : Place} (receives : operand.Receives scope value effect)
    (place_eq : effect.place? = some place) : operand.place? scope = some place := by
  cases receives with
  | register => exact place_eq
  | cell named =>
      rw [← place_eq]
      cases operand with
      | register => cases named
      | _ => exact congrArg (Option.map Place.cell) named
  | null => cases place_eq

namespace Machine

/-! ## Steps -/

/-- The next step of a machine overwrites a place. -/
inductive Overwrites (host : Host) (machine : Machine) (place : Place) : Prop where
  /-- By its instruction. -/
  | instruction {instruction : Instruction}
      (current : machine.current.instruction? = some instruction)
      (targets : instruction.Targets machine.context place) : Overwrites host machine place
  /-- By a function of the host. -/
  | function {name : String} {id : NativeId} {function : NativeFunction} {arguments : List Value}
      {context : Context} {result : Except HostError Value} {memory : Memory}
      (invokes : machine.next host = (.ok (.callNative name id function arguments), context))
      (invoked : function arguments context.shared.memory = (result, memory))
      (changed : ¬place.KeptIn context (context.withMemory memory)) : Overwrites host machine place
  /-- By the result of a function of the host. -/
  | functionResult {name : String} {id : NativeId} {function : NativeFunction}
      {arguments : List Value} {context : Context}
      (invokes : machine.next host = (.ok (.callNative name id function arguments), context))
      (named : (machine.current.instruction.operand 0).place? machine.current.scope = some place) :
      Overwrites host machine place
  /-- By the result of a call of a label. -/
  | labelResult {offset : Nat} {returns : List Nat} (ends : machine.Ends)
      (returns_eq : machine.current.returns = offset :: returns)
      (named : ((machine.goTo offset).current.instruction.operand 0).place?
        machine.current.scope = some place) : Overwrites host machine place
  /-- By the result of a call of a library function. -/
  | libraryResult {caller : Activation} {callers : List Activation} (ends : machine.Ends)
      (returns_eq : machine.current.returns = []) (callers_eq : machine.callers = caller :: callers)
      (named : (caller.instruction.operand 0).place? caller.scope = some place) :
      Overwrites host machine place

variable {host : Host} {machine next : Machine} {place : Place}

theorem Performs.keptIn {flow : Flow} {context : Context}
    (performs : machine.Performs host flow context) (existed : place.ExistsIn machine.context)
    (spared : ¬machine.Overwrites host place) : place.KeptIn machine.context context := by
  cases performs with
  | instruction current growth does =>
      apply growth.keptIn_apply existed
      intro place_eq
      exact spared (.instruction current (does.targets place_eq.symm))
  | fallOff => exact .refl existed

theorem Resumes.keptIn {value : Value} (resumes : machine.Resumes value next)
    (existed : place.ExistsIn machine.context)
    (spared : (machine.current.instruction.operand 0).place? machine.current.scope ≠ some place) :
    place.KeptIn machine.context next.context := by
  cases resumes with
  | store growth receives =>
      apply growth.keptIn_apply existed
      intro place_eq
      exact spared (receives.place?_eq place_eq.symm)

/-- A place that programs share is kept by a step that does not overwrite it. -/
theorem keptIn_of_step (stepped : machine.step host = .running next) (isShared : place.IsShared)
    (existed : place.ExistsIn machine.context) (spared : ¬machine.Overwrites host place) :
    place.KeptIn machine.context next.context := by
  cases passes_of_step stepped with
  | onward performs | jump performs | enterLabel performs =>
      exact performs.keptIn existed spared
  | enterLibrary performs links =>
      have kept := performs.keptIn existed spared
      have linked := Program.keptIn_of_link links isShared kept.1
      exact kept.trans linked
  | @invoke _ _ _ _ context _ memory _ invokes invoked resumes =>
      have performs := performs_of_next invokes
      have kept := performs.keptIn existed spared
      have invoked_kept : place.KeptIn context (context.withMemory memory) := by
        apply Classical.byContradiction
        exact fun changed => spared (.function invokes invoked changed)
      have scope_eq := performs.scope_eq (by simp)
      apply (kept.trans invoked_kept).trans
      apply resumes.keptIn invoked_kept.1
      intro named
      apply spared
      apply Overwrites.functionResult invokes
      rw [← scope_eq]
      exact named
  | leaveLabel performs returns_eq resumes =>
      have kept := performs.keptIn existed spared
      have scope_eq := performs.scope_eq (by simp)
      apply kept.trans
      apply resumes.keptIn kept.1
      intro named
      apply spared
      apply Overwrites.labelResult performs.ends returns_eq
      rw [← scope_eq]
      exact named
  | @leaveLibrary _ context caller callers _ performs returns_eq callers_eq resumes =>
      have kept := performs.keptIn existed spared
      -- The caller has another scope, which does not matter for a place that is shared.
      have returned : place.KeptIn context ⟨context.shared, caller.scope⟩ :=
        isShared.keptIn_of_shared_eq kept.1 rfl
      apply (kept.trans returned).trans
      apply resumes.keptIn returned.1
      intro named
      exact spared (.libraryResult performs.ends returns_eq callers_eq named)

/-! ## Runs -/

/-- The machine is reached by steps that overwrite none of the places. -/
inductive RunsSparing (host : Host) (places : List Place) (start : Machine) : Machine → Prop where
  | start : RunsSparing host places start start
  | step {machine next : Machine} (runs : RunsSparing host places start machine)
      (stepped : machine.step host = .running next)
      (spares : ∀ place ∈ places, ¬machine.Overwrites host place) :
      RunsSparing host places start next

/-- Along a run that spares places what is there stays the same. -/
theorem RunsSparing.keptIn {places : List Place} {start : Machine}
    (runs : RunsSparing host places start machine) (member : place ∈ places)
    (isShared : place.IsShared) (existed : place.ExistsIn start.context) :
    place.KeptIn start.context machine.context := by
  induction runs with
  | start => exact .refl existed
  | step runs stepped spares ih =>
      exact ih.trans (keptIn_of_step stepped isShared ih.1 (spares place member))

end Machine

end ScriptMachine
