import ScriptMachine.Engine
import ScriptMachine.Proofs.Isolation.Confinement
import ScriptMachine.Proofs.Link.Declarations
import ScriptMachine.Proofs.Link.Independence

/-!
# Linking after clearing

A program that is linked in a cleared state finds nothing of what was done before: neither what was
registered and loaded nor what was in the registers, and also not what is in memory, which stays
but is not read.  Two states with arbitrary histories are therefore linked in the same way, or
refused for the same reason.

What can differ are addresses, because new cells are behind the old ones.  They are at the same
distance from the end of the memory before, so that an address in one state is translated to the
other by the difference of the sizes.
-/

namespace ScriptMachine

/-! ## Translated addresses -/

/-- The second address is the first, translated by a difference. -/
def Address.TranslatesTo (difference : Int) (address other : Address) : Prop :=
  (other.index : Int) = address.index + difference

/-- The second binding is the first with its address translated. -/
structure Binding.TranslatesTo (difference : Int) (binding other : Binding Address) : Prop where
  name_eq : binding.name = other.name
  visibility_eq : binding.visibility = other.visibility
  target : Option.Rel (Address.TranslatesTo difference) binding.target other.target

/-- The second variables are the first with all addresses translated. -/
structure Table.TranslatesTo (difference : Int) (vars other : Variables) : Prop where
  size_eq : vars.size = other.size
  binding : ∀ index,
    Option.Rel (Binding.TranslatesTo difference) (vars.get? index) (other.get? index)

/-- The size of the second memory is that of the first, translated by a difference. -/
def Memory.TranslatesTo (difference : Int) (memory other : Memory) : Prop :=
  (other.size : Int) = memory.size + difference

variable {difference : Int} {memory otherMemory : Memory} {vars otherVars : Variables}

namespace Table.TranslatesTo

theorem empty : Table.TranslatesTo difference .empty .empty := ⟨rfl, fun _ => .none⟩

theorem set (translates : vars.TranslatesTo difference otherVars) (index : Nat)
    {binding other : Binding Address} (bindings : binding.TranslatesTo difference other) :
    (vars.set index binding).TranslatesTo difference (otherVars.set index other) where
  size_eq := by rw [size_set, size_set, translates.size_eq]
  binding changed := by
    simp only [get?_set]
    split
    · exact .some bindings
    · exact translates.binding changed

end Table.TranslatesTo

namespace Memory.TranslatesTo

theorem address (translates : memory.TranslatesTo difference otherMemory) (value : Value) :
    (memory.allocate value).1.TranslatesTo difference (otherMemory.allocate value).1 :=
  translates

theorem allocate (translates : memory.TranslatesTo difference otherMemory) (value : Value) :
    (memory.allocate value).2.TranslatesTo difference (otherMemory.allocate value).2 := by
  unfold Memory.TranslatesTo at translates ⊢
  rw [size_allocate, size_allocate]
  omega

theorem allocateAll (translates : memory.TranslatesTo difference otherMemory)
    (values : List Value) :
    (memory.allocateAll values).2.TranslatesTo difference (otherMemory.allocateAll values).2 := by
  unfold Memory.TranslatesTo at translates ⊢
  rw [size_allocateAll, size_allocateAll]
  omega

end Memory.TranslatesTo

namespace Program

theorem translates_bindAll (declarations : List Declaration)
    (memories : memory.TranslatesTo difference otherMemory)
    (bound : vars.TranslatesTo difference otherVars) :
    (Declaration.bindAll memory vars declarations).2.TranslatesTo difference
      (Declaration.bindAll otherMemory otherVars declarations).2 := by
  induction declarations generalizing memory vars otherMemory otherVars with
  | nil => exact bound
  | cons declaration rest ih =>
      apply ih (memories.allocate _)
      exact bound.set _ ⟨rfl, rfl, .some (memories.address declaration.value)⟩

/-- Declarations are bound to translated addresses. -/
theorem translates_declare (program : Program) (left right : SharedState)
    (memories : left.memory.TranslatesTo difference right.memory) :
    (program.declare left).2.scope.vars.TranslatesTo difference
        (program.declare right).2.scope.vars ∧
      (program.declare left).2.shared.memory.TranslatesTo difference
        (program.declare right).2.shared.memory := by
  constructor
  · rw [vars_declare, vars_declare]
    exact translates_bindAll program.declarations memories .empty
  · rw [memory_declare, memory_declare]
    exact memories.allocateAll _

end Program

/-! ## Arguments -/

/-- The cell with the list of arguments, when arguments are passed in a state. -/
def SharedState.argumentsAddress (shared : SharedState) (values : List Value) : Address :=
  let listed := shared.memory.newListOf values
  (listed.2.allocate (.list listed.1)).1

/-- The registers with the address of the arguments, if there are any, and zero in all others. -/
def Registers.ofSlot : Option Address → Registers
  | none => .zero
  | some address => Registers.zero.set 0 address.toRaw

theorem SharedState.translates_argumentsAddress {left right : SharedState} (values : List Value)
    (memories : left.memory.TranslatesTo difference right.memory) :
    (left.argumentsAddress values).TranslatesTo difference (right.argumentsAddress values) := by
  -- The list that is made between has no cell.
  exact (memories.allocateAll values).address .none

/-! ## Links of one program -/

/-- What two links of one program have in common, in states with these memories of which all but
the memory was forgotten before. -/
structure Program.LinkedAfresh (arguments : Option (List Value)) (left right : Memory)
    (linked other : Except ExecutionError Unit × Context) : Prop where
  result_eq : linked.1 = other.1
  registry_eq : linked.2.shared.registry = other.2.shared.registry
  libraries_eq : linked.2.shared.libraries = other.2.shared.libraries
  labels_eq : linked.2.scope.labels = other.2.scope.labels
  vars : linked.2.scope.vars.TranslatesTo (right.size - left.size) other.2.scope.vars
  registers : ∃ slot otherSlot,
    Option.Rel (Address.TranslatesTo (right.size - left.size)) slot otherSlot ∧
      linked.2.shared.registers = .ofSlot slot ∧ other.2.shared.registers = .ofSlot otherSlot ∧
        (slot.isSome = true ↔ linked.1 = .ok () ∧ arguments.isSome = true)
  left_preserves : left.Preserves linked.2.shared.memory
  right_preserves : right.Preserves other.2.shared.memory

namespace Program

variable (program : Program) (host : Host) (arguments : Option (List Value))
  (left right : SharedState)

/-- Two states of which all but the memory is forgotten are linked alike but for addresses. -/
theorem linkedAfresh :
    LinkedAfresh arguments left.memory right.memory (program.link host arguments true left)
      (program.link host arguments true right) := by
  obtain ⟨result, registry, libraries, run, otherRun⟩ : ∃ result registry libraries,
      (SharedState.linkImports host program).run left.reset =
          (result, ⟨left.memory, .zero, registry, libraries⟩) ∧
        (SharedState.linkImports host program).run right.reset =
          (result, ⟨right.memory, .zero, registry, libraries⟩) :=
    SharedState.linkImports_alike host program rfl rfl
  simp only [link, if_true, run, otherRun]
  have memories : left.memory.TranslatesTo (right.memory.size - left.memory.size) right.memory := by
    unfold Memory.TranslatesTo
    omega
  cases result with
  | error cause =>
      exact ⟨rfl, rfl, rfl, rfl, .empty, ⟨none, none, .none, rfl, rfl, by simp⟩,
        Memory.preserves_refl _, Memory.preserves_refl _⟩
  | ok =>
      have preserves (memory : Memory) :=
        have isolates : memory.Isolates (SharedState.mk memory .zero registry libraries).memory :=
          .refl memory
        (isolated_declare program isolates).memory.toPreserves
      obtain ⟨bound, declared⟩ := program.translates_declare
        ⟨left.memory, .zero, registry, libraries⟩ ⟨right.memory, .zero, registry, libraries⟩ memories
      -- Labels are marked, or refused, for the program's sake only.
      obtain ⟨marked, declare_eq⟩ :
          ∃ marked, ∀ shared, program.declare shared = (marked, (program.declare shared).2) :=
        ⟨_, fun _ => rfl⟩
      dsimp only
      rw [declare_eq ⟨left.memory, _, _, _⟩, declare_eq ⟨right.memory, _, _, _⟩]
      cases marked with
      | error error =>
          exact ⟨rfl, rfl, rfl, rfl, bound, ⟨none, none, .none, rfl, rfl, by simp⟩,
            preserves left.memory, preserves right.memory⟩
      | ok =>
          cases arguments with
          | none =>
              exact ⟨rfl, rfl, rfl, rfl, bound, ⟨none, none, .none, rfl, rfl, by simp⟩,
                preserves left.memory, preserves right.memory⟩
          | some values =>
              have slots := SharedState.translates_argumentsAddress values declared
              exact ⟨rfl, rfl, rfl, rfl, bound, ⟨_, _, .some slots, rfl, rfl, by simp⟩,
                (preserves left.memory).trans (SharedState.preserves_passArguments _ values),
                (preserves right.memory).trans (SharedState.preserves_passArguments _ values)⟩

end Program

namespace Engine

/-- Whatever two engines have done before, with one program and with hosts that provide the same
for imports, linking in their cleared states succeeds in both or fails in both with one error, and
leaves the same but for addresses. -/
theorem cleared_link {first second : Engine} (program_eq : first.program = second.program)
    (provides : first.host.ProvidesAlike second.host) (arguments : Option (List Value)) :
    Program.LinkedAfresh arguments first.shared.memory second.shared.memory
      (first.program.link first.host arguments true first.shared)
      (second.program.link second.host arguments true second.shared) := by
  rw [program_eq, provides.link_eq]
  exact second.program.linkedAfresh second.host arguments first.shared second.shared

/-- A program with one of each declaration. -/
def declaringProgram : Program where
  imports := []
  constants := [⟨1, .text "constant"⟩]
  vars := [⟨0, "result", .exported⟩]
  functions := [⟨0, "main", .exported⟩]
  instructions := #[.make .label [.label 0]]

/-- An engine for the program in which more cells, a register and a name are left from before, and
with another bound on the depth of calls. -/
def emptiedEngine : Engine where
  program := declaringProgram
  host := { Host.empty with maxDepth := 7 }
  shared :=
    { memory := (Memory.empty.newListOf [.text "left", .none]).2
      registers := Registers.zero.set 3 5
      registry := Registry.empty.register "left" (.native ⟨0⟩)
      libraries := .empty }
  scope := .empty

theorem cleared_link_emptiedEngine :
    Program.LinkedAfresh (some [.none]) Memory.empty emptiedEngine.shared.memory
      (declaringProgram.link Host.empty (some [.none]) true SharedState.empty)
      (emptiedEngine.program.link emptiedEngine.host (some [.none]) true emptiedEngine.shared) := by
  have program_eq : (ofProgram declaringProgram).program = emptiedEngine.program := rfl
  have provides : (ofProgram declaringProgram).host.ProvidesAlike emptiedEngine.host :=
    ⟨rfl, fun _ => rfl, rfl, rfl, rfl⟩
  exact cleared_link program_eq provides (some [.none])

end Engine

end ScriptMachine
