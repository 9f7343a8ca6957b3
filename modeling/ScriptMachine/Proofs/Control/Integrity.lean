import ScriptMachine.Engine
import ScriptMachine.Proofs.Link.Labels
import ScriptMachine.Proofs.Machine.Runs

/-!
# Control-flow integrity

Where control can be.  Of an activation, control sees the program, the offset and the
offsets of the label calls that are going on, its `Position`.  A step either proceeds
behind an instruction, the current one or a call that ends, or enters a label, whose offset
is then the last mark of the label in its program.

The invariant is `Activation.InCode`: the labels of the scope are bound where the program
marks them last, and the offset is inside the instructions or just behind them.  Both
passes that make a label table go into it through `Program.labelOffset?_of_link`, and no
instruction changes the table afterwards.
-/

namespace ScriptMachine

/-! ## Positions -/

/-- What control sees of an activation. -/
structure Position where
  program : Program
  offset : Nat
  returns : List Nat

/-- Where an activation is and where it will go on. -/
def Activation.position (activation : Activation) : Position :=
  ⟨activation.program, activation.offset, activation.returns⟩

namespace Machine

/-- The positions of all activations, from the innermost. -/
def positions (machine : Machine) : List Position := machine.activations.map Activation.position

/-- Control goes on behind an instruction: one that does not transfer it, or a call that
ends. -/
inductive Proceeds (machine : Machine) : List Position → Prop where
  | onward {instruction : Instruction} (current : machine.current.instruction? = some instruction)
      (not_taken : ∀ label, ¬instruction.Jumps machine.context label)
      (not_ret : instruction.opcode ≠ .ret)
      (native : instruction.opcode = .call →
        ∃ id, (instruction.operand 1).Names machine.context (.native id)) :
      Proceeds machine
        (⟨machine.current.program, machine.current.offset + 1, machine.current.returns⟩ ::
          machine.callers.map Activation.position)
  | leaveLabel {offset : Nat} {returns : List Nat} (ends : machine.Ends)
      (returns_eq : machine.current.returns = offset :: returns) :
      Proceeds machine
        (⟨machine.current.program, offset + 1, returns⟩ :: machine.callers.map Activation.position)
  | leaveLibrary {caller : Activation} {callers : List Activation} (ends : machine.Ends)
      (returns_eq : machine.current.returns = [])
      (callers_eq : machine.callers = caller :: callers) :
      Proceeds machine
        (⟨caller.program, caller.offset + 1, caller.returns⟩ :: callers.map Activation.position)

/-- Control goes on at the last mark of the label that a jump or a call asks for. -/
inductive Enters (machine : Machine) : UInt64 → List Position → Prop where
  | jump {instruction : Instruction} {label : UInt64} {offset : Nat}
      (current : machine.current.instruction? = some instruction)
      (jumps : instruction.Jumps machine.context label)
      (mark : machine.current.program.LastMark label offset) :
      Enters machine label
        (⟨machine.current.program, offset, machine.current.returns⟩ ::
          machine.callers.map Activation.position)
  | callLabel {instruction : Instruction} {label : UInt64} {offset : Nat}
      (current : machine.current.instruction? = some instruction)
      (opcode_eq : instruction.opcode = .call) (operand_eq : instruction.operand 1 = .label label)
      (mark : machine.current.program.LastMark label offset) :
      Enters machine label
        (⟨machine.current.program, offset, machine.current.offset :: machine.current.returns⟩ ::
          machine.callers.map Activation.position)
  | callLibrary {instruction : Instruction} {reference : FunctionReference} {library : Library}
      {offset : Nat} (current : machine.current.instruction? = some instruction)
      (opcode_eq : instruction.opcode = .call)
      (named : (instruction.operand 1).Names machine.context (.library reference))
      (loaded : machine.shared.libraries.get? reference.library = some library)
      (mark : library.program.LastMark reference.label offset) :
      Enters machine reference.label (⟨library.program, offset, []⟩ :: machine.positions)

end Machine

/-! ## The invariant -/

/-- Labels are bound to their last marks, and control is inside the program or just behind
it. -/
structure Activation.InCode (activation : Activation) : Prop where
  bound_iff : ∀ label offset, activation.scope.labelOffset? label = some offset ↔
    activation.program.LastMark label offset
  offset_le : activation.offset ≤ activation.program.instructions.size
  returns_lt : ∀ offset ∈ activation.returns, offset < activation.program.instructions.size

/-- All activations are in their programs, and those that wait do so at an instruction. -/
structure Machine.InCode (machine : Machine) : Prop where
  current : machine.current.InCode
  callers : ∀ caller ∈ machine.callers,
    caller.InCode ∧ caller.offset < caller.program.instructions.size

/-- Control of a program moves while the labels stay. -/
theorem Activation.InCode.move {activation : Activation} (inCode : activation.InCode)
    {scope : Scope} (labels_eq : scope.labels = activation.scope.labels) {offset : Nat}
    (offset_le : offset ≤ activation.program.instructions.size) {returns : List Nat}
    (returns_lt : ∀ offset ∈ returns, offset < activation.program.instructions.size) (depth : Nat) :
    InCode ⟨activation.program, scope, depth, offset, returns⟩ where
  bound_iff label found := by
    unfold Scope.labelOffset?
    rw [labels_eq]
    exact inCode.bound_iff label found
  offset_le := offset_le
  returns_lt := returns_lt

/-- A linked program begins in its code. -/
theorem Activation.inCode_of_link {program : Program} {host : Host}
    {arguments : Option (List Value)} {fresh : Bool} {shared : SharedState} {linked : Context}
    (links : program.link host arguments fresh shared = (.ok (), linked)) {label : UInt64}
    {offset : Nat} (mark : program.LastMark label offset) (depth : Nat) :
    InCode ⟨program, linked.scope, depth, offset, []⟩ where
  bound_iff := Program.labelOffset?_of_link links
  offset_le := Nat.le_of_lt mark.offset_lt
  returns_lt := by simp

namespace Machine

variable {host : Host} {machine next : Machine}

/-- What does not return is done at an instruction. -/
theorem Performs.offset_lt {flow : Flow} {context : Context}
    (performs : machine.Performs host flow context) (not_ret : ∀ value, flow ≠ .ret value) :
    machine.current.offset < machine.current.program.instructions.size := by
  obtain ⟨instruction, _, current, _⟩ := performs.exists_does not_ret
  exact (Array.getElem?_eq_some_iff.mp current).1

/-- The labels after a performance are those before, and so is what they are bound to. -/
theorem Performs.inCode_withContext {flow : Flow} {context : Context}
    (performs : machine.Performs host flow context) (inCode : machine.InCode) :
    (machine.withContext context).InCode where
  current := inCode.current.move performs.labels_eq inCode.current.offset_le
    inCode.current.returns_lt _
  callers := inCode.callers

/-! ## Steps keep the invariant -/

theorem inCode_of_resumes {value : Value} (resumes : machine.Resumes value next)
    (inCode : machine.InCode)
    (offset_lt : machine.current.offset < machine.current.program.instructions.size) :
    next.InCode where
  current := by
    rw [resumes.current_eq]
    exact inCode.current.move rfl offset_lt inCode.current.returns_lt _
  callers := by
    rw [resumes.callers_eq]
    exact inCode.callers

theorem inCode_of_passes (inCode : machine.InCode) (passes : machine.Passes host next) :
    next.InCode := by
  have bound {label : UInt64} {offset : Nat}
      (found : machine.current.scope.labelOffset? label = some offset) :
      offset < machine.current.program.instructions.size :=
    ((inCode.current.bound_iff label offset).mp found).offset_lt
  cases passes with
  | onward performs =>
      have within := performs.inCode_withContext inCode
      have offset_lt := performs.offset_lt (by simp)
      constructor
      · exact within.current.move rfl offset_lt inCode.current.returns_lt _
      · exact inCode.callers
  | jump performs =>
      obtain ⟨instruction, _, current, does⟩ := performs.exists_does (by simp)
      obtain ⟨label, _, found⟩ := does.jumps_of_jump
      have within := performs.inCode_withContext inCode
      constructor
      · exact within.current.move rfl (Nat.le_of_lt (bound found))
          inCode.current.returns_lt _
      · exact inCode.callers
  | enterLabel performs =>
      obtain ⟨instruction, _, current, does⟩ := performs.exists_does (by simp)
      obtain ⟨_, label, _, found⟩ := does.call_of_callLabel
      have returns_lt : ∀ offset ∈ machine.current.offset :: machine.current.returns,
          offset < machine.current.program.instructions.size := by
        rw [List.forall_mem_cons]
        exact ⟨performs.offset_lt (by simp), inCode.current.returns_lt⟩
      have within := performs.inCode_withContext inCode
      constructor
      · exact within.current.move rfl (Nat.le_of_lt (bound found)) returns_lt _
      · exact inCode.callers
  | enterLibrary performs links entry =>
      obtain ⟨_, _, mark⟩ := Program.entryOffset_of_link links entry
      have offset_lt := performs.offset_lt (by simp)
      constructor
      · exact Activation.inCode_of_link links mark _
      · intro caller member
        rcases List.mem_cons.mp member with rfl | waits
        · exact ⟨(performs.inCode_withContext inCode).current, offset_lt⟩
        · exact inCode.callers caller waits
  | invoke invokes invoked resumes =>
      have performs := performs_of_next invokes
      have within := performs.inCode_withContext inCode
      have offset_lt := performs.offset_lt (by simp)
      exact inCode_of_resumes resumes ⟨within.current, inCode.callers⟩ offset_lt
  | leaveLabel performs returns_eq resumes =>
      have returns_lt := inCode.current.returns_lt
      rw [returns_eq, List.forall_mem_cons] at returns_lt
      have within := performs.inCode_withContext inCode
      apply inCode_of_resumes resumes _ returns_lt.1
      constructor
      · exact within.current.move rfl (Nat.le_of_lt returns_lt.1) returns_lt.2 _
      · exact inCode.callers
  | leaveLibrary performs returns_eq callers_eq resumes =>
      have waiting := inCode.callers
      rw [callers_eq, List.forall_mem_cons] at waiting
      exact inCode_of_resumes resumes ⟨waiting.1.1, waiting.2⟩ waiting.1.2

/-! ## Transfers of control -/

theorem positions_of_resumes {value : Value} (resumes : machine.Resumes value next) :
    next.positions =
      ⟨machine.current.program, machine.current.offset + 1, machine.current.returns⟩ ::
        machine.callers.map Activation.position := by
  rw [positions, activations, resumes.current_eq, resumes.callers_eq]
  rfl

/-- A step proceeds behind an instruction or enters a label at its last mark. -/
theorem transfers_of_passes (inCode : machine.InCode) (passes : machine.Passes host next) :
    machine.Proceeds next.positions ∨ ∃ label, machine.Enters label next.positions := by
  have marked {label : UInt64} {offset : Nat}
      (found : machine.current.scope.labelOffset? label = some offset) :
      machine.current.program.LastMark label offset :=
    (inCode.current.bound_iff label offset).mp found
  cases passes with
  | onward performs =>
      obtain ⟨instruction, _, current, does⟩ := performs.exists_does (by simp)
      apply Or.inl
      exact .onward current does.not_jumps_of_next does.opcode_ne_of_next.1
        fun opcode_eq => absurd opcode_eq does.opcode_ne_of_next.2
  | jump performs =>
      obtain ⟨instruction, _, current, does⟩ := performs.exists_does (by simp)
      obtain ⟨label, jumps, found⟩ := does.jumps_of_jump
      exact .inr ⟨label, .jump current jumps (marked found)⟩
  | enterLabel performs =>
      obtain ⟨instruction, _, current, does⟩ := performs.exists_does (by simp)
      obtain ⟨opcode_eq, label, operand_eq, found⟩ := does.call_of_callLabel
      exact .inr ⟨label, .callLabel current opcode_eq operand_eq (marked found)⟩
  | enterLibrary performs links entry =>
      obtain ⟨instruction, _, current, does⟩ := performs.exists_does (by simp)
      obtain ⟨opcode_eq, reference, library, named, loaded, rfl, rfl⟩ := does.call_of_callLibrary
      obtain ⟨_, ⟨⟩, mark⟩ := Program.entryOffset_of_link links entry
      exact .inr ⟨reference.label, .callLibrary current opcode_eq named loaded mark⟩
  | invoke invokes invoked resumes =>
      have performs := performs_of_next invokes
      obtain ⟨instruction, _, current, does⟩ := performs.exists_does (by simp)
      obtain ⟨opcode_eq, named, _⟩ := does.call_of_callNative
      rw [positions_of_resumes resumes]
      apply Or.inl
      apply Proceeds.onward current _ (by simp [opcode_eq]) (fun _ => ⟨_, named⟩)
      intro label jumps
      cases jumps <;> simp_all
  | leaveLabel performs returns_eq resumes =>
      rw [positions_of_resumes resumes]
      exact .inl (.leaveLabel performs.ends returns_eq)
  | leaveLibrary performs returns_eq callers_eq resumes =>
      rw [positions_of_resumes resumes]
      exact .inl (.leaveLibrary performs.ends returns_eq callers_eq)

/-- Control that has entered a label is at the mark. -/
theorem offset_lt_of_enters {label : UInt64} (enters : machine.Enters label next.positions) :
    next.current.offset < next.current.program.instructions.size := by
  generalize positions_eq : next.positions = positions at enters
  cases enters with
  | jump _ _ mark | callLabel _ _ _ mark | callLibrary _ _ _ _ mark =>
      obtain ⟨current_eq, _⟩ := List.cons.inj positions_eq
      have offset_eq := congrArg Position.offset current_eq
      have program_eq := congrArg Position.program current_eq
      simp only [Activation.position] at offset_eq program_eq
      rw [offset_eq, program_eq]
      exact mark.offset_lt

theorem inCode_of_start {engine : Engine} {entry : Entry} {arguments : Option (List Value)}
    {fresh : Bool} (starts : engine.start entry arguments fresh = .running machine) :
    machine.InCode ∧ ∃ label offset, entry.Requests engine.program label ∧
      engine.program.LastMark label offset ∧
        machine.positions = [⟨engine.program, offset, []⟩] := by
  unfold Engine.start at starts
  split at starts
  · cases starts
  · rename_i linked links
    split at starts
    · cases starts
    · rename_i offset entered
      cases starts
      obtain ⟨label, requests, mark⟩ := Program.entryOffset_of_link links entered
      constructor
      · constructor
        · exact Activation.inCode_of_link links mark 0
        · simp
      · exact ⟨label, offset, requests, mark, rfl⟩

/-- An execution begins at the last mark of the label that its entry asks for.  After any
number of steps every activation, in the program itself or in a library at any depth, is inside
its instructions or just behind them and returns to instructions; and a step proceeds behind an
instruction or enters a label at its last mark, so that control leaves the instructions only by
proceeding behind the last. -/
theorem control_integrity {engine : Engine} {entry : Entry} {arguments : Option (List Value)}
    {fresh : Bool} {initial : Machine}
    (starts : engine.start entry arguments fresh = .running initial) :
    (∃ label offset, entry.Requests engine.program label ∧ engine.program.LastMark label offset ∧
      initial.positions = [⟨engine.program, offset, []⟩]) ∧
    ∀ steps machine, initial.run engine.host steps = .running machine →
      (∀ position ∈ machine.positions,
        position.offset ≤ position.program.instructions.size ∧
          ∀ offset ∈ position.returns, offset < position.program.instructions.size) ∧
      ∀ next, machine.step engine.host = .running next →
        (machine.Proceeds next.positions ∨ ∃ label, machine.Enters label next.positions) ∧
          (next.current.instruction? = none → machine.Proceeds next.positions) := by
  obtain ⟨initially, begins⟩ := inCode_of_start starts
  constructor
  · exact begins
  · intro steps machine runs
    have inCode : machine.InCode :=
      holds_of_run (fun _ _ inCode stepped => inCode_of_passes inCode (passes_of_step stepped))
        initially runs
    constructor
    · intro position member
      obtain ⟨activation, waits, rfl⟩ := List.mem_map.mp member
      rcases List.mem_cons.mp waits with rfl | waits
      · exact ⟨inCode.current.offset_le, inCode.current.returns_lt⟩
      · have waiting := (inCode.callers activation waits).1
        exact ⟨waiting.offset_le, waiting.returns_lt⟩
    · intro next stepped
      have transfers := transfers_of_passes inCode (passes_of_step stepped)
      constructor
      · exact transfers
      · intro ended
        rcases transfers with proceeds | ⟨label, enters⟩
        · exact proceeds
        · have inside := offset_lt_of_enters enters
          rw [Activation.instruction?, Array.getElem?_eq_none_iff] at ended
          omega

/-- A program that calls a label which falls off the end, and jumps back. -/
def callingProgram : Program where
  imports := []
  constants := []
  vars := [⟨0, "result", .hidden⟩]
  functions := [⟨0, "main", .exported⟩]
  instructions := #[
    .make .label [.label 0],
    .make .call [.variable 0, .label 1],
    .make .jump [.label 0],
    .make .label [.label 1]]

theorem control_integrity_callingProgram :
    ∃ initial, (Engine.ofProgram callingProgram).start Engine.mainEntry none true =
        .running initial ∧
      ∀ steps machine, initial.run Host.empty steps = .running machine →
        ∀ position ∈ machine.positions,
          position.offset ≤ position.program.instructions.size := by
  have starts : ∃ initial, (Engine.ofProgram callingProgram).start Engine.mainEntry none true =
      .running initial := ⟨_, rfl⟩
  obtain ⟨initial, starts⟩ := starts
  apply Exists.intro initial
  constructor
  · exact starts
  · intro steps machine runs position member
    have inside := (control_integrity starts).2 steps machine runs
    exact (inside.1 position member).1

end Machine

end ScriptMachine
