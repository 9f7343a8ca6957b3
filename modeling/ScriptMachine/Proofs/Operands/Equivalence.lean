import Mathlib.Data.List.Forall2
import Mathlib.Data.List.TakeWhile
import ScriptMachine.Proofs.Machine.Transition

/-!
# Equivalent programs

An instruction is performed by its opcode and its first three operands, where those that are missing
read as absent.  Two programs with the same tables whose instructions agree on these, and on their
lines, are equivalent: in equal states they are linked to equal states and make the same steps.

The errors of equivalent programs have the same cause at the same offsets and lines.  They can
differ in how they show an instruction, since there all operands are shown that are in its list.
-/

namespace ScriptMachine

/-! ## Instructions and programs -/

/-- The same to a machine. -/
structure Instruction.Equivalent (left right : Instruction) : Prop where
  opcode_eq : left.opcode = right.opcode
  line_eq : left.line = right.line
  operand_eq : ∀ index, index < 3 → left.operand index = right.operand index

/-- The same tables, and as many instructions that are the same to a machine. -/
structure Program.Equivalent (left right : Program) : Prop where
  imports_eq : left.imports = right.imports
  constants_eq : left.constants = right.constants
  vars_eq : left.vars = right.vars
  functions_eq : left.functions = right.functions
  instructions :
    List.Forall₂ Instruction.Equivalent left.instructions.toList right.instructions.toList

namespace Instruction

theorem Equivalent.refl (instruction : Instruction) : instruction.Equivalent instruction :=
  ⟨rfl, rfl, fun _ _ => rfl⟩

variable {left right : Instruction}

/-- An instruction does what its opcode does to its first three operands. -/
theorem Equivalent.perform_eq (equivalent : left.Equivalent right) (host : Host) (depth : Nat) :
    left.perform host depth = right.perform host depth := by
  unfold perform
  rw [equivalent.opcode_eq, equivalent.operand_eq 0 (by decide),
    equivalent.operand_eq 1 (by decide), equivalent.operand_eq 2 (by decide)]

/-- The instruction without the absent operands at its end. -/
def trim (instruction : Instruction) : Instruction :=
  { instruction with operands := trimOperands instruction.operands }

theorem getD_trimOperands (operands : List Operand) (index : Nat) :
    (trimOperands operands)[index]?.getD .none = operands[index]?.getD .none := by
  -- What is left and what is left out.
  have split_eq : operands =
      trimOperands operands ++ (operands.reverse.takeWhile (· = .none)).reverse := by
    rw [trimOperands, ← List.reverse_append, List.takeWhile_append_dropWhile,
      List.reverse_reverse]
  have absent : ∀ operand ∈ (operands.reverse.takeWhile (· = .none)).reverse,
      operand = .none := by
    intro operand member
    simpa using List.mem_takeWhile_imp (List.mem_reverse.mp member)
  generalize (operands.reverse.takeWhile (· = .none)).reverse = rest at split_eq absent
  rcases Nat.lt_or_ge index (trimOperands operands).length with inside | outside
  · conv_rhs => rw [split_eq]
    rw [List.getElem?_append_left inside]
  · conv_rhs => rw [split_eq]
    rw [List.getElem?_append_right outside, List.getElem?_eq_none outside]
    cases found : rest[index - (trimOperands operands).length]? with
    | none => rfl
    | some operand => exact (absent operand (List.mem_of_getElem? found)).symm

theorem equivalent_trim (instruction : Instruction) : instruction.Equivalent instruction.trim :=
  ⟨rfl, rfl, fun index _ => (getD_trimOperands instruction.operands index).symm⟩

end Instruction

theorem Program.Equivalent.refl (program : Program) : program.Equivalent program :=
  ⟨rfl, rfl, rfl, rfl, List.forall₂_same.mpr fun instruction _ => .refl instruction⟩

/-- The program with all its instructions without the absent operands at their ends. -/
def Program.trim (program : Program) : Program :=
  { program with instructions := program.instructions.map Instruction.trim }

theorem Program.equivalent_trim (program : Program) : program.Equivalent program.trim where
  imports_eq := rfl
  constants_eq := rfl
  vars_eq := rfl
  functions_eq := rfl
  instructions := by
    rw [trim, Array.toList_map, List.forall₂_map_right_iff, List.forall₂_same]
    exact fun instruction _ => instruction.equivalent_trim

/-! ## Errors -/

/-- The same place in equivalent programs. -/
structure Location.Equivalent (left right : Location) : Prop where
  offset_eq : left.offset = right.offset
  line_eq : left.line = right.line

/-- The same cause, after the same calls, at the same places in equivalent programs. -/
inductive ExecutionError.Equivalent : ExecutionError → ExecutionError → Prop where
  | fault (cause : Fault) {location other : Option Location}
      (locations : Option.Rel Location.Equivalent location other) :
      Equivalent (.fault cause location) (.fault cause other)
  | call {left right : ExecutionError} (inner : Equivalent left right) {location other : Location}
      (locations : location.Equivalent other) :
      Equivalent (.call left location) (.call right other)

/-- The same value or equivalent errors. -/
inductive ExecutionError.EquivalentResults {α : Type} :
    Except ExecutionError α → Except ExecutionError α → Prop where
  | error {left right : ExecutionError} (errors : left.Equivalent right) :
      EquivalentResults (.error left) (.error right)
  | value (value : α) : EquivalentResults (.ok value) (.ok value)

theorem ExecutionError.Equivalent.refl (error : ExecutionError) : error.Equivalent error := by
  induction error with
  | fault cause location =>
      cases location with
      | none => exact .fault cause .none
      | some location => exact .fault cause (.some ⟨rfl, rfl⟩)
  | call inner location ih => exact ih.call ⟨rfl, rfl⟩

theorem Instruction.Equivalent.location {left right : Instruction}
    (equivalent : left.Equivalent right) (offset : Nat) :
    (Location.ofInstruction offset left).Equivalent (.ofInstruction offset right) :=
  ⟨rfl, equivalent.line_eq⟩

/-! ## Linking -/

/-- Linking leaves one context, and equivalent errors if it fails. -/
def Program.LinkedSame (linked other : Except ExecutionError Unit × Context) : Prop :=
  ExecutionError.EquivalentResults linked.1 other.1 ∧ linked.2 = other.2

namespace Program

theorem markLabels_equivalent {instructions otherInstructions : List Instruction}
    (equivalent : List.Forall₂ Instruction.Equivalent instructions otherInstructions)
    (labels : Labels) (offset : Nat) :
    ExecutionError.EquivalentResults (markLabels labels offset instructions).1
        (markLabels labels offset otherInstructions).1 ∧
      (markLabels labels offset instructions).2 =
        (markLabels labels offset otherInstructions).2 := by
  induction equivalent generalizing labels offset with
  | nil => exact ⟨.value (), rfl⟩
  | cons first _ ih =>
      simp only [markLabels]
      rw [← first.opcode_eq, ← first.operand_eq 0 (by decide)]
      split
      · split
        · exact ih _ _
        · exact ⟨.error (.fault _ (.some (first.location offset))), rfl⟩
      · exact ih _ _

variable {left right : Program}

theorem Equivalent.declare (equivalent : left.Equivalent right) (shared : SharedState) :
    LinkedSame (left.declare shared) (right.declare shared) := by
  obtain ⟨marked, labels_eq⟩ :=
    markLabels_equivalent equivalent.instructions (declareLabels .empty left.functions) 0
  unfold Program.declare
  rw [← equivalent.constants_eq, ← equivalent.vars_eq, ← equivalent.functions_eq]
  exact ⟨marked, by simp only [labels_eq]⟩

theorem Equivalent.linkImports_eq (equivalent : left.Equivalent right) (host : Host) :
    SharedState.linkImports host left = SharedState.linkImports host right := by
  simp only [SharedState.linkImports, equivalent.imports_eq]

/-- Equivalent programs are linked to one context, or refused for one reason. -/
theorem Equivalent.link (equivalent : left.Equivalent right) (host : Host)
    (arguments : Option (List Value)) (fresh : Bool) (shared : SharedState) :
    LinkedSame (left.link host arguments fresh shared)
      (right.link host arguments fresh shared) := by
  simp only [Program.link, equivalent.linkImports_eq]
  split
  · exact ⟨.error (.fault _ .none), rfl⟩
  · rename_i imported _
    obtain ⟨marked, context_eq⟩ := equivalent.declare imported
    rcases declared : left.declare imported with ⟨result, context⟩
    rcases otherDeclared : right.declare imported with ⟨otherResult, otherContext⟩
    rw [declared, otherDeclared] at marked context_eq
    subst context_eq
    cases marked with
    | error errors => exact ⟨.error errors, rfl⟩
    | value => cases arguments <;> exact ⟨.value (), rfl⟩

end Program

/-! ## Machines -/

/-- The same place in equivalent programs, with the same scope. -/
structure Activation.Equivalent (left right : Activation) : Prop where
  program : left.program.Equivalent right.program
  scope_eq : left.scope = right.scope
  depth_eq : left.depth = right.depth
  offset_eq : left.offset = right.offset
  returns_eq : left.returns = right.returns

/-- The same shared state, and all programs in execution at the same places. -/
structure Machine.Equivalent (left right : Machine) : Prop where
  shared_eq : left.shared = right.shared
  current : left.current.Equivalent right.current
  callers : List.Forall₂ Activation.Equivalent left.callers right.callers

/-- The same value or equivalent errors, and the same that is left behind. -/
structure Outcome.Equivalent (left right : Outcome) : Prop where
  result : ExecutionError.EquivalentResults left.result right.result
  shared_eq : left.shared = right.shared
  scope_eq : left.scope = right.scope

/-- Two machines that both go on, or have both ended. -/
inductive Status.Equivalent : Status → Status → Prop where
  | running {left right : Machine} (machines : left.Equivalent right) :
      Equivalent (.running left) (.running right)
  | finished {left right : Outcome} (outcomes : left.Equivalent right) :
      Equivalent (.finished left) (.finished right)

namespace Activation.Equivalent

variable {left right : Activation}

/-- Either both programs have an instruction at the place, or none has. -/
theorem instruction? (equivalent : left.Equivalent right) :
    Option.Rel Instruction.Equivalent left.instruction? right.instruction? := by
  unfold Activation.instruction?
  rw [← equivalent.offset_eq, ← Array.getElem?_toList, ← Array.getElem?_toList]
  have instructions := equivalent.program.instructions
  generalize left.program.instructions.toList = list at instructions ⊢
  generalize right.program.instructions.toList = otherList at instructions ⊢
  generalize left.offset = offset
  induction instructions generalizing offset with
  | nil => exact .none
  | cons first _ ih =>
      cases offset with
      | zero => exact .some first
      | succ offset => exact ih offset

theorem instruction (equivalent : left.Equivalent right) :
    left.instruction.Equivalent right.instruction := by
  have found := equivalent.instruction?
  unfold Activation.instruction
  generalize left.instruction? = current at found ⊢
  generalize right.instruction? = otherCurrent at found ⊢
  cases found with
  | none => exact .refl _
  | some instructions => exact instructions

theorem location (equivalent : left.Equivalent right) :
    left.location.Equivalent right.location := by
  unfold Activation.location
  rw [equivalent.offset_eq]
  exact equivalent.instruction.location _

end Activation.Equivalent

/-- Equivalent errors go through the same calls. -/
theorem ExecutionError.Equivalent.wrap {callers otherCallers : List Activation}
    (waiting : List.Forall₂ Activation.Equivalent callers otherCallers)
    {left right : ExecutionError} (errors : left.Equivalent right) :
    (left.wrap callers).Equivalent (right.wrap otherCallers) := by
  induction waiting generalizing left right with
  | nil => exact errors
  | cons first _ ih => exact ih (errors.call first.location)

namespace Machine.Equivalent

variable {left right : Machine}

theorem context_eq (equivalent : left.Equivalent right) : left.context = right.context := by
  unfold context
  rw [equivalent.shared_eq, equivalent.current.scope_eq]

theorem rootScope_eq (equivalent : left.Equivalent right) : left.rootScope = right.rootScope := by
  obtain ⟨_, current, callers⟩ := equivalent
  unfold rootScope
  generalize left.callers = waiting at callers ⊢
  generalize right.callers = otherWaiting at callers ⊢
  -- The scope is that of the last caller, if there is one.
  have last : Option.Rel Activation.Equivalent waiting.getLast? otherWaiting.getLast? := by
    rw [← List.head?_reverse, ← List.head?_reverse]
    have reversed := List.rel_reverse callers
    generalize waiting.reverse = outermost at reversed ⊢
    generalize otherWaiting.reverse = otherOutermost at reversed ⊢
    cases reversed with
    | nil => exact .none
    | cons first _ => exact .some first
  generalize waiting.getLast? = caller at last ⊢
  generalize otherWaiting.getLast? = otherCaller at last ⊢
  cases last with
  | none => exact current.scope_eq
  | some caller => exact caller.scope_eq

theorem withContext (equivalent : left.Equivalent right) (context : Context) :
    (left.withContext context).Equivalent (right.withContext context) where
  shared_eq := rfl
  current := ⟨equivalent.current.program, rfl, equivalent.current.depth_eq,
    equivalent.current.offset_eq, equivalent.current.returns_eq⟩
  callers := equivalent.callers

theorem withShared (equivalent : left.Equivalent right) (shared : SharedState) :
    Equivalent { left with shared := shared } { right with shared := shared } :=
  ⟨rfl, equivalent.current, equivalent.callers⟩

theorem goTo (equivalent : left.Equivalent right) (offset : Nat) :
    (left.goTo offset).Equivalent (right.goTo offset) where
  shared_eq := equivalent.shared_eq
  current := ⟨equivalent.current.program, equivalent.current.scope_eq,
    equivalent.current.depth_eq, rfl, equivalent.current.returns_eq⟩
  callers := equivalent.callers

theorem goOn (equivalent : left.Equivalent right) :
    (left.goTo (left.current.offset + 1)).Equivalent (right.goTo (right.current.offset + 1)) := by
  rw [equivalent.current.offset_eq]
  exact equivalent.goTo _

theorem abort (equivalent : left.Equivalent right) {error other : ExecutionError}
    (errors : error.Equivalent other) :
    Status.Equivalent (left.abort error) (right.abort other) :=
  .finished ⟨.error (errors.wrap equivalent.callers), equivalent.shared_eq,
    equivalent.rootScope_eq⟩

theorem fault (equivalent : left.Equivalent right) (cause : Fault) :
    Status.Equivalent (left.fault cause) (right.fault cause) :=
  equivalent.abort (.fault cause (.some equivalent.current.location))

/-! ### Calls -/

theorem resume (equivalent : left.Equivalent right) (value : Value) :
    Status.Equivalent (left.resume value) (right.resume value) := by
  unfold Machine.resume
  rw [equivalent.context_eq, equivalent.current.instruction.operand_eq 0 (by decide)]
  split
  · exact .running (equivalent.withContext _).goOn
  · exact (equivalent.withContext _).fault _

theorem giveBack (equivalent : left.Equivalent right) (value : Value) :
    Status.Equivalent (left.giveBack value) (right.giveBack value) := by
  have rootScope_eq := equivalent.rootScope_eq
  obtain ⟨shared_eq, current, callers⟩ := equivalent
  unfold Machine.giveBack
  rw [current.returns_eq, current.depth_eq]
  cases right.current.returns with
  | cons offset returns =>
      apply resume
      exact ⟨shared_eq, ⟨current.program, current.scope_eq, rfl, rfl, rfl⟩, callers⟩
  | nil =>
      generalize left.callers = waiting at callers
      generalize right.callers = otherWaiting at callers
      cases callers with
      | nil => exact .finished ⟨.value value, shared_eq, rootScope_eq⟩
      | cons caller rest =>
          apply resume
          exact ⟨shared_eq, caller, rest⟩

theorem enterLabel (equivalent : left.Equivalent right) (offset : Nat) :
    (left.enterLabel offset).Equivalent (right.enterLabel offset) where
  shared_eq := equivalent.shared_eq
  current := by
    refine ⟨equivalent.current.program, equivalent.current.scope_eq, ?_, rfl, ?_⟩
    · exact congrArg (· + 1) equivalent.current.depth_eq
    · exact congrArg₂ List.cons equivalent.current.offset_eq equivalent.current.returns_eq
  callers := equivalent.callers

/-- The program of a library is one and the same. -/
theorem enterLibrary (equivalent : left.Equivalent right) (host : Host) (program : Program)
    (label : UInt64) :
    Status.Equivalent (left.enterLibrary host program label)
      (right.enterLibrary host program label) := by
  have failed (error : ExecutionError) :
      (error.call left.current.location).Equivalent (error.call right.current.location) :=
    (ExecutionError.Equivalent.refl error).call equivalent.current.location
  unfold Machine.enterLibrary
  rw [equivalent.shared_eq]
  split
  · exact (equivalent.withShared _).abort (failed _)
  · split
    · exact (equivalent.withShared _).abort (failed _)
    · have depth_eq := congrArg (· + 1) equivalent.current.depth_eq
      exact .running ⟨rfl, ⟨.refl program, rfl, depth_eq, rfl, rfl⟩,
        .cons equivalent.current equivalent.callers⟩

theorem invoke (equivalent : left.Equivalent right) (name : String) (function : NativeFunction)
    (arguments : List Value) :
    Status.Equivalent (left.invoke name function arguments)
      (right.invoke name function arguments) := by
  unfold Machine.invoke
  rw [equivalent.shared_eq]
  simp only
  split
  · exact (equivalent.withShared _).resume _
  · exact (equivalent.withShared _).fault _

/-! ### Steps -/

/-- The next instructions ask for the same and leave one context. -/
theorem next_eq (equivalent : left.Equivalent right) (host : Host) :
    left.next host = right.next host := by
  have found := equivalent.current.instruction?
  unfold next
  rw [equivalent.context_eq, equivalent.current.depth_eq]
  generalize left.current.instruction? = current at found ⊢
  generalize right.current.instruction? = otherCurrent at found ⊢
  cases found with
  | none => rfl
  | some instructions => simp only [instructions.perform_eq]

/-- Equivalent machines make the same step. -/
theorem step (equivalent : left.Equivalent right) (host : Host) :
    Status.Equivalent (left.step host) (right.step host) := by
  unfold Machine.step
  rw [equivalent.next_eq]
  rcases right.next host with ⟨cause | flow, context⟩
  · exact (equivalent.withContext context).fault cause
  · have after := equivalent.withContext context
    cases flow with
    | next => exact .running after.goOn
    | jump offset => exact .running (after.goTo offset)
    | callLabel offset => exact .running (after.enterLabel offset)
    | callLibrary program label => exact after.enterLibrary host program label
    | callNative name id function arguments => exact after.invoke name function arguments
    | ret value => exact after.giveBack value

end Machine.Equivalent

end ScriptMachine
