import ScriptMachine.Proofs.Control.Integrity

/-!
# Frames

An activation of a program keeps the offsets of the label calls that are going on in it.
Taken one by one, with a frame for every program and one more for every label call, the
activations of a machine are a stack, and a step does to this stack one of three things: the
innermost frame goes on, a call puts a frame above it, or the innermost frame ends and the one
below goes on behind its call.

A call is going on as long as its frame is on the stack.  `Machine.RunsWithin` is a part of a
run during which this is so for the innermost frame at its beginning; that frame and those
below it are then the same but for its offset.
-/

namespace ScriptMachine

/-- A program, or a label call in it, that is going on: where it is. -/
structure Frame where
  program : Program
  offset : Nat

/-- The frames of the label calls in a program, from the innermost, and of the program. -/
def Position.frames (position : Position) : List Frame :=
  ⟨position.program, position.offset⟩ :: position.returns.map (⟨position.program, ·⟩)

namespace Machine

/-- The frames of all that is going on, from the innermost. -/
def frames (machine : Machine) : List Frame := machine.positions.flatMap Position.frames

/-- The frames that wait for the innermost one. -/
def framesBelow (machine : Machine) : List Frame :=
  machine.current.returns.map (⟨machine.current.program, ·⟩) ++
    (machine.callers.map Activation.position).flatMap Position.frames

theorem frames_eq_cons (machine : Machine) :
    machine.frames = ⟨machine.current.program, machine.current.offset⟩ :: machine.framesBelow :=
  rfl

/-- The current instruction calls a label or a function of a library. -/
def CallsCode (machine : Machine) : Prop :=
  ∃ instruction, machine.current.instruction? = some instruction ∧ instruction.opcode = .call ∧
    ((∃ label, instruction.operand 1 = .label label) ∨
      ∃ reference, (instruction.operand 1).Names machine.context (.library reference))

/-- The offset follows the current one, or is where a jump goes that is taken. -/
def GoesOnAt (machine : Machine) (offset : Nat) : Prop :=
  offset = machine.current.offset + 1 ∨
    ∃ instruction label, machine.current.instruction? = some instruction ∧
      instruction.Jumps machine.context label ∧ machine.current.program.LastMark label offset

/-- What a step does to the frames. -/
inductive Shifts (machine : Machine) : List Frame → Prop where
  | goesOn {offset : Nat} (goes : machine.GoesOnAt offset) :
      Shifts machine (⟨machine.current.program, offset⟩ :: machine.framesBelow)
  | begins {frame : Frame} (calls : machine.CallsCode) : Shifts machine (frame :: machine.frames)
  | ends {frame : Frame} {below : List Frame} (waits : machine.framesBelow = frame :: below) :
      Shifts machine (⟨frame.program, frame.offset + 1⟩ :: below)

variable {host : Host} {machine next : Machine}

theorem shifts_of_passes (inCode : machine.InCode) (passes : machine.Passes host next) :
    machine.Shifts next.frames := by
  have transfers := transfers_of_passes inCode passes
  unfold frames
  generalize next.positions = positions at transfers ⊢
  rcases transfers with proceeds | ⟨label, enters⟩
  · cases proceeds with
    | onward => exact .goesOn (.inl rfl)
    | @leaveLabel offset returns _ returns_eq =>
        have waits : machine.framesBelow = ⟨machine.current.program, offset⟩ ::
            (returns.map (⟨machine.current.program, ·⟩) ++
              (machine.callers.map Activation.position).flatMap Position.frames) := by
          rw [framesBelow, returns_eq]
          rfl
        exact .ends waits
    | @leaveLibrary caller callers _ returns_eq callers_eq =>
        have waits : machine.framesBelow = ⟨caller.program, caller.offset⟩ ::
            (caller.returns.map (⟨caller.program, ·⟩) ++
              (callers.map Activation.position).flatMap Position.frames) := by
          rw [framesBelow, returns_eq, callers_eq]
          rfl
        exact .ends waits
  · cases enters with
    | jump current jumps mark => exact .goesOn (.inr ⟨_, label, current, jumps, mark⟩)
    | callLabel current opcode_eq operand_eq mark =>
        exact .begins ⟨_, current, opcode_eq, .inl ⟨label, operand_eq⟩⟩
    | callLibrary current opcode_eq named loaded mark =>
        exact .begins ⟨_, current, opcode_eq, .inr ⟨_, named⟩⟩

/-! ## During a call -/

/-- The machine is reached by steps during which the innermost frame does not end. -/
inductive RunsWithin (host : Host) (start : Machine) : Machine → Prop where
  | start : RunsWithin host start start
  | step {machine next : Machine} (runs : RunsWithin host start machine)
      (stepped : machine.step host = .running next)
      (within : start.frames.length ≤ next.frames.length) : RunsWithin host start next

/-- A frame with those below it stays on the stack until it ends. -/
theorem Shifts.exists_above {above below shifted : List Frame} {program : Program} {offset : Nat}
    (shifts : machine.Shifts shifted)
    (frames_eq : machine.frames = above ++ ⟨program, offset⟩ :: below)
    (within : below.length < shifted.length) :
    ∃ above offset, shifted = above ++ ⟨program, offset⟩ :: below := by
  rw [frames_eq_cons] at frames_eq
  cases shifts with
  | @goesOn moved =>
      cases above with
      | nil =>
          obtain ⟨frame_eq, below_eq⟩ := List.cons.inj frames_eq
          obtain ⟨rfl, -⟩ := Frame.mk.inj frame_eq
          exact ⟨[], moved, by rw [below_eq, List.nil_append]⟩
      | cons frame above =>
          obtain ⟨-, below_eq⟩ := List.cons.inj frames_eq
          exact ⟨⟨machine.current.program, moved⟩ :: above, offset,
            congrArg (⟨machine.current.program, moved⟩ :: ·) below_eq⟩
  | @begins frame calls =>
      exact ⟨frame :: above, offset, by rw [frames_eq_cons, frames_eq, List.cons_append]⟩
  | @ends waiting rest waits =>
      rw [waits] at frames_eq
      cases above with
      | nil =>
          -- The frame itself would have ended.
          obtain ⟨-, below_eq⟩ := List.cons.inj frames_eq
          rw [← below_eq] at within
          simp at within
      | cons first above =>
          obtain ⟨-, rest_eq⟩ := List.cons.inj frames_eq
          cases above with
          | nil =>
              obtain ⟨rfl, rfl⟩ := List.cons.inj rest_eq
              exact ⟨[], offset + 1, rfl⟩
          | cons second above =>
              obtain ⟨rfl, rfl⟩ := List.cons.inj rest_eq
              exact ⟨_ :: above, offset, rfl⟩

/-- During a call its frame is on the stack, and those below are the same. -/
theorem frames_of_runsWithin {start : Machine} (inCode : start.InCode)
    (runs : start.RunsWithin host machine) :
    machine.InCode ∧ ∃ above offset,
      machine.frames = above ++ ⟨start.current.program, offset⟩ :: start.framesBelow := by
  induction runs with
  | start => exact ⟨inCode, [], start.current.offset, rfl⟩
  | step runs stepped within ih =>
      obtain ⟨inCode, above, offset, frames_eq⟩ := ih
      have passes := passes_of_step stepped
      constructor
      · exact inCode_of_passes inCode passes
      · apply (shifts_of_passes inCode passes).exists_above frames_eq
        rw [frames_eq_cons] at within
        exact within

end Machine

end ScriptMachine
