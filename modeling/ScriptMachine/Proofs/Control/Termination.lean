import ScriptMachine.Proofs.Control.Depth

/-!
# Termination

Programs that only jump forward end, whatever they call: the bound on the depth of calls
stands in for all that recursion could do.  A frame counts the instructions that are left behind
its offset, and `Machine.remaining` has these counts from the innermost frame.  A step makes
the first count smaller, puts a new one of any size before it while there is room, or takes
it away and makes the next one smaller.

No measure in numbers is stated for this.  The order in which the stacks of counts descend
is shown to be well-founded by an induction on the room that is left, inside which one on the
first count takes care of the calls that a frame makes one after another.
-/

namespace ScriptMachine

/-! ## Jumps -/

/-- The label to which a jump goes, if it is taken. -/
def Instruction.target? (instruction : Instruction) : Option UInt64 :=
  match instruction.opcode, instruction.operand 0, instruction.operand 1 with
  | .jump, .label label, _ | .jumpIfTrue, _, .label label => some label
  | _, _, _ => none

theorem Instruction.Jumps.target?_eq {instruction : Instruction} {context : Context}
    {label : UInt64} (jumps : instruction.Jumps context label) :
    instruction.target? = some label := by
  cases jumps with
  | jump opcode_eq operand_eq | jumpIfTrue opcode_eq _ _ _ operand_eq =>
      rw [target?, opcode_eq, operand_eq]

namespace Program

/-- Jumps to labels that are marked go forward. -/
def JumpsForward (program : Program) : Prop :=
  ∀ offset instruction label target, program.instructions[offset]? = some instruction →
    instruction.target? = some label → program.LastMark label target → offset < target

/-- Whether jumps to labels that are marked go forward. -/
def jumpsForward (program : Program) : Bool :=
  program.instructions.toList.zipIdx.all fun (instruction, offset) =>
    instruction.target?.all fun label =>
      (lastMark? label 0 program.instructions.toList).all fun target => offset < target

theorem jumpsForward_iff (program : Program) :
    program.jumpsForward = true ↔ program.JumpsForward := by
  simp only [jumpsForward, List.all_eq_true, Option.all_eq_true, decide_eq_true_eq]
  constructor
  · intro forward offset instruction label target found jumps mark
    rw [← Array.getElem?_toList] at found
    exact forward (instruction, offset) (List.mem_zipIdx_iff_getElem?.mpr found) label jumps target
      ((lastMark?_eq_some_iff program label target).mpr mark)
  · rintro forward ⟨instruction, offset⟩ member label jumps target marked
    rw [List.mem_zipIdx_iff_getElem?, Array.getElem?_toList] at member
    exact forward offset instruction label target member jumps
      ((lastMark?_eq_some_iff program label target).mp marked)

instance (program : Program) : Decidable program.JumpsForward :=
  decidable_of_iff _ program.jumpsForward_iff

end Program

/-! ## Stacks of counts -/

/-- The second stack of counts, of bounded height, becomes the first. -/
inductive Descends (bound : Nat) : List Nat → List Nat → Prop where
  | goesOn {less count : Nat} {below : List Nat} (less_lt : less < count) :
      Descends bound (less :: below) (count :: below)
  | begins {first : Nat} {counts : List Nat} (within : counts.length < bound) :
      Descends bound (first :: counts) counts
  | ends {first less count : Nat} {below : List Nat} (less_lt : less < count) :
      Descends bound (less :: below) (first :: count :: below)

namespace Descends

variable {bound : Nat}

/-- A count can be put on a stack if all to which the stack returns descends finitely.  The
induction is on the room above the stack, and within it on the count. -/
theorem acc_cons (room : Nat) {below : List Nat} (count : Nat)
    (room_ge : bound ≤ below.length + 1 + room)
    (returns : ∀ less next rest, below = next :: rest → less < next →
      Acc (Descends bound) (less :: rest)) :
    Acc (Descends bound) (count :: below) := by
  induction room using Nat.strongRecOn generalizing below count with
  | _ room roomier =>
    induction count using Nat.strongRecOn with
    | _ count smaller =>
      constructor
      intro after descends
      cases descends with
      | goesOn less_lt => exact smaller _ less_lt
      | @begins first _ within =>
          rw [List.length_cons] at within
          apply roomier (room - 1) (by omega) first
          · rw [List.length_cons]
            omega
          · rintro less next rest ⟨rfl, rfl⟩ less_lt
            exact smaller less less_lt
      | ends less_lt => exact returns _ _ _ rfl less_lt

theorem acc (counts : List Nat) : Acc (Descends bound) counts := by
  cases counts with
  | nil =>
      constructor
      intro after descends
      cases descends with
      | @begins first => exact acc_cons bound first (by omega) (by simp)
  | cons count below =>
      induction below generalizing count with
      | nil => exact acc_cons bound count (by omega) (by simp)
      | cons next rest ih =>
          apply acc_cons bound count (by omega)
          rintro less _ _ ⟨rfl, rfl⟩ _
          exact ih less

theorem wellFounded (bound : Nat) : WellFounded (Descends bound) := ⟨acc⟩

end Descends

/-! ## Programs in execution -/

namespace Machine

variable {host : Host} {machine next : Machine} {property : Program → Prop}

/-- All programs that are going on or loaded have a property. -/
structure Programs (property : Program → Prop) (machine : Machine) : Prop where
  current : property machine.current.program
  callers : ∀ caller ∈ machine.callers, property caller.program
  libraries : ∀ library ∈ machine.shared.libraries.loaded, property library.program

theorem Programs.resume {value : Value} (programs : machine.Programs property)
    (resumes : machine.Resumes value next) : next.Programs property where
  current := by
    rw [resumes.current_eq]
    exact programs.current
  callers := by
    rw [resumes.callers_eq]
    exact programs.callers
  libraries := by
    rw [resumes.libraries_eq]
    exact programs.libraries

/-- Executions do not come by other programs. -/
theorem programs_of_passes (programs : machine.Programs property)
    (loadable : ∀ program, host.Loadable program → property program)
    (passes : machine.Passes host next) : next.Programs property := by
  have loaded {flow : Flow} {context : Context} (performs : machine.Performs host flow context) :
      ∀ library ∈ context.shared.libraries.loaded, property library.program := by
    rw [performs.libraries_eq]
    exact programs.libraries
  cases passes with
  | onward performs | jump performs | enterLabel performs =>
      exact ⟨programs.current, programs.callers, loaded performs⟩
  | enterLibrary performs links entry =>
      obtain ⟨_, _, _, does⟩ := performs.exists_does (by simp)
      obtain ⟨_, _, library, _, found, rfl, _⟩ := does.call_of_callLibrary
      constructor
      · exact programs.libraries library (List.mem_of_getElem? found)
      · exact List.forall_mem_cons.mpr ⟨programs.current, programs.callers⟩
      · exact Program.libraries_of_link links (fun _ => loaded performs) loadable
  | invoke invokes invoked resumes =>
      have loaded := loaded (performs_of_next invokes)
      apply Programs.resume _ resumes
      exact ⟨programs.current, programs.callers, loaded⟩
  | leaveLabel performs returns_eq resumes =>
      apply Programs.resume _ resumes
      exact ⟨programs.current, programs.callers, loaded performs⟩
  | leaveLibrary performs returns_eq callers_eq resumes =>
      have waiting := programs.callers
      rw [callers_eq, List.forall_mem_cons] at waiting
      exact Programs.resume ⟨waiting.1, waiting.2, loaded performs⟩ resumes

/-! ## Steps -/

end Machine

/-- The number of instructions of a frame that are at its offset or behind it. -/
def Frame.remaining (frame : Frame) : Nat := frame.program.instructions.size - frame.offset

namespace Machine

variable {host : Host} {machine next : Machine}

/-- What remains of all frames, from the innermost. -/
def remaining (machine : Machine) : List Nat := machine.frames.map Frame.remaining

theorem Counted.length_frames_le (counted : machine.Counted host) :
    machine.frames.length ≤ max 1 host.maxDepth := by
  have depth_eq := counted.depth_eq
  have bounded := counted.2.1
  omega

/-- A machine in a program without loops goes on further ahead. -/
theorem GoesOnAt.offset_lt {offset : Nat} (goes : machine.GoesOnAt offset)
    (forward : machine.current.program.JumpsForward) : machine.current.offset < offset := by
  rcases goes with rfl | ⟨instruction, label, current, jumps, mark⟩
  · exact Nat.lt_succ_self _
  · exact forward _ instruction label offset current jumps.target?_eq mark

/-- Steps of programs without loops descend. -/
theorem descends_of_passes (inCode : machine.InCode)
    (forward : machine.current.program.JumpsForward) (passes : machine.Passes host next)
    (counted : next.Counted host) :
    Descends (max 1 host.maxDepth) next.remaining machine.remaining := by
  have offset_le := (inCode_of_passes inCode passes).current.offset_le
  have height_le := counted.length_frames_le
  have shifts := shifts_of_passes inCode passes
  have ahead {program : Program} {offset later : Nat} {below : List Frame}
      (offset_lt : offset < later)
      (frames_eq : next.frames = ⟨program, later⟩ :: below) :
      Frame.remaining ⟨program, later⟩ < Frame.remaining ⟨program, offset⟩ := by
    obtain ⟨head_eq, -⟩ := List.cons.inj ((frames_eq_cons next).symm.trans frames_eq)
    obtain ⟨rfl, rfl⟩ := Frame.mk.inj head_eq
    simp only [Frame.remaining]
    omega
  simp only [remaining]
  generalize frames_eq : next.frames = frames at shifts height_le
  rw [frames_eq_cons machine]
  cases shifts with
  | goesOn goes => exact .goesOn (ahead (goes.offset_lt forward) frames_eq)
  | begins calls =>
      rw [List.length_cons] at height_le
      apply Descends.begins
      rw [List.length_map]
      exact height_le
  | ends waits =>
      rw [waits]
      exact .ends (ahead (Nat.lt_succ_self _) frames_eq)

/-- What holds of every machine of an execution without loops. -/
structure Terminating (host : Host) (machine : Machine) : Prop where
  inCode : machine.InCode
  counted : machine.Counted host
  programs : machine.Programs Program.JumpsForward

/-- From there the execution ends. -/
theorem exists_finished (loadable : ∀ program, host.Loadable program → program.JumpsForward)
    (terminating : machine.Terminating host) :
    ∃ steps outcome, machine.run host steps = .finished outcome := by
  generalize counts_eq : machine.remaining = counts
  have accessible := (Descends.wellFounded (max 1 host.maxDepth)).apply counts
  induction accessible generalizing machine with
  | intro counts _ ih =>
      subst counts_eq
      cases stepped : machine.step host with
      | finished outcome => exact ⟨1, outcome, by rw [run_one, stepped]⟩
      | running next =>
          obtain ⟨inCode, counted, programs⟩ := terminating
          have passes := passes_of_step stepped
          have nextCounted := counted_of_passes counted passes
          have descends := descends_of_passes inCode programs.current passes nextCounted
          have nextTerminating : next.Terminating host :=
            ⟨inCode_of_passes inCode passes, nextCounted,
              programs_of_passes programs loadable passes⟩
          obtain ⟨steps, outcome, runs⟩ := ih _ descends nextTerminating rfl
          refine ⟨1 + steps, outcome, ?_⟩
          rw [run_add (run_one machine ▸ stepped)]
          exact runs

end Machine

/-! ## Executions -/

namespace Engine

variable {engine : Engine} {entry : Entry} {arguments : Option (List Value)} {fresh : Bool}

section Programs

variable {property : Program → Prop} (root : property engine.program)
  (loaded : fresh = false → ∀ library ∈ engine.shared.libraries.loaded, property library.program)
  (loadable : ∀ program, engine.host.Loadable program → property program)
include root loaded loadable

theorem programs_of_start {initial : Machine}
    (starts : engine.start entry arguments fresh = .running initial) :
    initial.Programs property := by
  obtain ⟨linked, offset, links, -, rfl⟩ := exists_linked_of_start starts
  exact ⟨root, by simp, Program.libraries_of_link links loaded loadable⟩

/-- What holds of the program and of all libraries holds wherever the execution comes. -/
theorem programs_of_reaches {machine : Machine}
    (reaches : engine.Reaches entry arguments fresh machine) : machine.Programs property := by
  apply reaches.holds
  · intro initial starts
    exact programs_of_start root loaded loadable starts
  · intro before after _ programs stepped
    exact Machine.programs_of_passes programs loadable (Machine.passes_of_step stepped)

end Programs

theorem terminating_of_start {initial : Machine} (root : engine.program.JumpsForward)
    (loaded : fresh = false → ∀ library ∈ engine.shared.libraries.loaded,
      library.program.JumpsForward)
    (loadable : ∀ program, engine.host.Loadable program → program.JumpsForward)
    (starts : engine.start entry arguments fresh = .running initial) :
    initial.Terminating engine.host where
  inCode := (Machine.inCode_of_start starts).1
  counted := Machine.counted_of_start starts
  programs := programs_of_start root loaded loadable starts

/-- If the program and all libraries that it can load, or that are loaded when the execution
begins, only jump forward to labels that are marked, the execution ends: there is a number of
steps from which on it has a result, and always the same.  Labels and library functions may be
called from anywhere and call themselves and one another, and libraries may import one another. -/
theorem execution_terminates (root : engine.program.JumpsForward)
    (loaded : fresh = false → ∀ library ∈ engine.shared.libraries.loaded,
      library.program.JumpsForward)
    (loadable : ∀ program, engine.host.Loadable program → program.JumpsForward)
    (entry : Entry) (arguments : Option (List Value)) :
    ∃ bound result, ∀ steps, bound ≤ steps →
      (engine.execute steps entry arguments fresh).1 = some result := by
  cases starts : engine.start entry arguments fresh with
  | finished outcome =>
      exact ⟨0, outcome.result, fun _ _ => execute_eq_some_iff.mpr (.notStarted starts)⟩
  | running initial =>
      obtain ⟨bound, outcome, runs⟩ :=
        Machine.exists_finished loadable (terminating_of_start root loaded loadable starts)
      refine ⟨bound, outcome.result, fun steps steps_ge => ?_⟩
      have longer := Machine.run_add_of_finished runs (steps - bound)
      rw [Nat.add_sub_cancel' steps_ge] at longer
      exact execute_eq_some_iff.mpr (.ended starts longer)

/-- A library with a function that calls itself. -/
def recurringLibrary : Library where
  path := ⟨"recurring.cvm"⟩
  program :=
    { imports := []
      constants := []
      vars := [⟨0, "result", .hidden⟩]
      functions := [⟨0, "again", .exported⟩]
      instructions := #[
        .make .label [.label 0],
        .make .call [.variable 0, .literal (.text "again")]] }

/-- A program that jumps forward to a call of the library's function. -/
def skippingProgram : Program where
  imports := []
  constants := []
  vars := [⟨0, "result", .hidden⟩]
  functions := [⟨0, "main", .exported⟩]
  instructions := #[
    .make .label [.label 0],
    .make .jump [.label 1],
    .make .label [.label 1],
    .make .call [.variable 0, .literal (.text "again")]]

/-- An engine for the program, in which the library is loaded. -/
def recurringEngine : Engine :=
  { Engine.ofProgram skippingProgram with
    shared := { SharedState.empty with libraries := ⟨[recurringLibrary]⟩ } }

theorem execution_terminates_recurringEngine :
    recurringEngine.program.JumpsForward ∧
      (∀ library ∈ recurringEngine.shared.libraries.loaded, library.program.JumpsForward) ∧
      (∀ program, recurringEngine.host.Loadable program → program.JumpsForward) ∧
      ∃ bound result, ∀ steps, bound ≤ steps →
        (recurringEngine.execute steps mainEntry none false).1 = some result := by
  have root : recurringEngine.program.JumpsForward := by decide
  have loaded : ∀ library ∈ recurringEngine.shared.libraries.loaded,
      library.program.JumpsForward := by decide
  -- The host has no directories to look for libraries in.
  have loadable : ∀ program, recurringEngine.host.Loadable program → program.JumpsForward := by
    rintro program ⟨name, path, text, located, _⟩
    cases located
  exact ⟨root, loaded, loadable,
    execution_terminates root (fun _ => loaded) loadable mainEntry none⟩

end Engine

end ScriptMachine
