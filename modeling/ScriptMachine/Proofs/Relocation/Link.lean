import ScriptMachine.Proofs.Link.Declarations
import ScriptMachine.Proofs.Link.Independence
import ScriptMachine.Proofs.Relocation.Performance

/-!
# Linking in corresponding states

Imports are resolved without a look at the memory, and declarations get the next cells, whatever
the memory holds.  A library is therefore linked alike in corresponding states, and its new scopes
correspond.

The program with which an execution begins is linked in two memories that need not have anything
in common, as long as both are reset otherwise.  This is where a correspondence is found: it pairs
the cells of declarations, and all cells behind those of the arguments.  The arguments themselves
are left out, because what was in a memory before can be an argument.
-/

namespace ScriptMachine

/-! ## Declarations -/

/-- The next cells of two memories are paired, a number of them. -/
def Correspondence.PairsNext (correspondence : Correspondence) (left right : Memory)
    (count : Nat) : Prop :=
  ∀ (address other : Address) (distance : Nat), distance < count →
    address.index = left.size + distance → other.index = right.size + distance →
      correspondence.cells address other

theorem Memory.Corresponds.pairsNext {correspondence : Correspondence} {left right : Memory}
    (corresponds : left.Corresponds correspondence right) (count : Nat) :
    correspondence.PairsNext left right count :=
  fun address other distance _ => corresponds.supply address other distance

/-- Memories and variables while declarations are bound to cells, with some still to come. -/
structure Correspondence.Binds (correspondence : Correspondence) (count : Nat)
    (left right : Memory × Variables) : Prop where
  memory : left.1.Agrees correspondence right.1
  next : correspondence.PairsNext left.1 right.1 count
  scope : Scope.Corresponds correspondence ⟨left.2, .empty⟩ ⟨right.2, .empty⟩

variable {correspondence : Correspondence} {memory otherMemory : Memory}
  {vars otherVars : Variables} {count : Nat}

/-- One more declaration is bound to a cell. -/
theorem Correspondence.Binds.bind
    (binds : correspondence.Binds (count + 1) (memory, vars) (otherMemory, otherVars))
    {value : Value} (values : value.Corresponds correspondence value) (index : Nat) (name : String)
    (visibility : Visibility) :
    correspondence.Binds count
      ((memory.allocate value).2,
        vars.set index ⟨name, visibility, some (memory.allocate value).1⟩)
      ((otherMemory.allocate value).2,
        otherVars.set index ⟨name, visibility, some (otherMemory.allocate value).1⟩) := by
  have paired : correspondence.cells (memory.allocate value).1 (otherMemory.allocate value).1 :=
    binds.next _ _ 0 (Nat.succ_pos count) rfl rfl
  constructor
  · exact binds.memory.allocate values paired
  · intro address other distance distance_lt index_eq other_eq
    rw [Memory.size_allocate] at index_eq other_eq
    apply binds.next address other (distance + 1) (Nat.succ_lt_succ distance_lt)
    · rw [index_eq, Nat.add_assoc, Nat.add_comm 1]
    · rw [other_eq, Nat.add_assoc, Nat.add_comm 1]
  · refine ⟨?_, rfl⟩
    intro changed
    simp only [Table.get?_set]
    split
    · exact .some (.some paired)
    · exact binds.scope.vars changed

namespace Program

theorem binds_bindAll (declarations : List Declaration)
    (plain : ∀ declaration ∈ declarations, declaration.value.IsPlain)
    (binds : correspondence.Binds (declarations.length + count) (memory, vars)
      (otherMemory, otherVars)) :
    correspondence.Binds count (Declaration.bindAll memory vars declarations)
      (Declaration.bindAll otherMemory otherVars declarations) := by
  induction declarations generalizing memory vars otherMemory otherVars with
  | nil =>
      rw [List.length_nil, Nat.zero_add] at binds
      exact binds
  | cons declaration rest ih =>
      rcases List.forall_mem_cons.mp plain with ⟨isPlain, plain⟩
      rw [List.length_cons, Nat.add_right_comm] at binds
      exact ih plain (binds.bind isPlain.corresponds _ _ _)

variable {left right : SharedState}

/-- Declarations are bound to the next cells. -/
theorem binds_declare (program : Program) (left right : SharedState) (count : Nat)
    (agrees : left.memory.Agrees correspondence right.memory)
    (next : correspondence.PairsNext left.memory right.memory (program.declared + count)) :
    correspondence.Binds count
      ((program.declare left).2.shared.memory, (program.declare left).2.scope.vars)
      ((program.declare right).2.shared.memory, (program.declare right).2.scope.vars) := by
  have unbound : Scope.Corresponds correspondence ⟨.empty, .empty⟩ ⟨.empty, .empty⟩ :=
    ⟨fun _ => .none, rfl⟩
  rw [← length_declarations] at next
  rw [bound_declare, bound_declare]
  exact binds_bindAll program.declarations (fun _ => program.isPlain_of_mem_declarations)
    ⟨agrees, next, unbound⟩

/-- The scopes of a program correspond when its declarations are bound. -/
theorem scope_declare {program : Program}
    (binds : correspondence.Binds count
      ((program.declare left).2.shared.memory, (program.declare left).2.scope.vars)
      ((program.declare right).2.shared.memory, (program.declare right).2.scope.vars)) :
    (program.declare left).2.scope.Corresponds correspondence (program.declare right).2.scope :=
  ⟨binds.scope.vars, rfl⟩

/-- In corresponding states a program's declarations leave corresponding contexts. -/
theorem declare_corresponds (program : Program)
    (corresponds : left.Corresponds correspondence right) :
    (program.declare left).2.Corresponds correspondence (program.declare right).2 := by
  -- However many cells are asked to be paired behind the declarations, they are.
  have binds (count : Nat) := program.binds_declare left right count corresponds.memory.toAgrees
    (corresponds.memory.pairsNext (program.declared + count))
  refine ⟨⟨⟨(binds 0).memory, ?_, ?_, ?_⟩, corresponds.registers, corresponds.registry_eq,
    corresponds.libraries_eq⟩, scope_declare (binds 0)⟩
  · intro address other distance
    exact (binds (distance + 1)).next address other distance (Nat.lt_succ_self distance)
  · rw [lists_declare]
    exact corresponds.memory.leftLists_le
  · rw [lists_declare]
    exact corresponds.memory.rightLists_le

end Program

/-! ## Programs -/

namespace Program

variable {left right : SharedState}

/-- A program is refused with one error, or linked in corresponding contexts. -/
inductive LinkedAlike (correspondence : Correspondence) :
    Except ExecutionError Unit × Context → Except ExecutionError Unit × Context → Prop where
  | refused (error : ExecutionError) (context other : Context) :
      LinkedAlike correspondence (.error error, context) (.error error, other)
  | linked {context other : Context} (corresponds : context.Corresponds correspondence other) :
      LinkedAlike correspondence (.ok (), context) (.ok (), other)

/-- Linking is alike if declarations and arguments leave corresponding contexts. -/
theorem linkedAlike_of_declare {program : Program} {host : Host}
    {arguments : Option (List Value)} {fresh : Bool} (start other : SharedState)
    (start_eq : (if fresh then left.reset else left) = start)
    (other_eq : (if fresh then right.reset else right) = other)
    (registry_eq : start.registry = other.registry)
    (libraries_eq : start.libraries = other.libraries)
    (declares : ∀ registry libraries,
      ((program.declare { start with registry := registry, libraries := libraries }).2.withArguments
        arguments).Corresponds correspondence
          ((program.declare
            { other with registry := registry, libraries := libraries }).2.withArguments
              arguments)) :
    LinkedAlike correspondence (program.link host arguments fresh left)
      (program.link host arguments fresh right) := by
  simp only [link, start_eq, other_eq]
  obtain ⟨result, registry, libraries, run, otherRun⟩ :=
    SharedState.linkImports_alike host program registry_eq libraries_eq
  have corresponds := declares registry libraries
  rw [run, otherRun]
  cases result with
  | error cause => exact .refused _ _ _
  | ok =>
      -- Labels are marked, or refused, for the program's sake only.
      have marked_eq :
          (program.declare { start with registry := registry, libraries := libraries }).1 =
            (program.declare { other with registry := registry, libraries := libraries }).1 := rfl
      rcases declared :
        program.declare { start with registry := registry, libraries := libraries } with
        ⟨error | _, context⟩ <;>
        rcases otherDeclared :
          program.declare { other with registry := registry, libraries := libraries } with
          ⟨otherError | _, otherContext⟩ <;>
          rw [declared, otherDeclared] at marked_eq corresponds <;> cases marked_eq <;>
            simp only [declared, otherDeclared]
      · exact .refused error context otherContext
      · cases arguments <;> exact .linked corresponds

/-- A library is linked alike in corresponding states. -/
theorem linkedAlike_of_corresponds (program : Program) (host : Host)
    (corresponds : left.Corresponds correspondence right) :
    LinkedAlike correspondence (program.link host none false left)
      (program.link host none false right) := by
  apply linkedAlike_of_declare left right rfl rfl corresponds.registry_eq corresponds.libraries_eq
  intro registry libraries
  exact program.declare_corresponds ⟨corresponds.memory, corresponds.registers, rfl, rfl⟩

end Program

/-! ## Arguments -/

/-- The next cells of two memories are not paired, a number of them. -/
structure Correspondence.SkipsNext (correspondence : Correspondence) (left right : Memory)
    (count : Nat) : Prop where
  left : ∀ address other, left.size ≤ address.index → address.index < left.size + count →
    ¬ correspondence.cells address other
  right : ∀ address other, right.size ≤ other.index → other.index < right.size + count →
    ¬ correspondence.cells address other

namespace Memory

variable {left right : Memory}

theorem Agrees.allocate_skipped {value otherValue : Value}
    (agrees : left.Agrees correspondence right)
    (skips : correspondence.SkipsNext left right (count + 1)) :
    (left.allocate value).2.Agrees correspondence (right.allocate otherValue).2 := by
  apply agrees.allocate_unpaired
  · intro other
    exact skips.left _ other (Nat.le_refl _) (by simp)
  · intro address
    exact skips.right address _ (Nat.le_refl _) (by simp)

theorem skipsNext_allocate {value otherValue : Value}
    (skips : correspondence.SkipsNext left right (count + 1)) :
    correspondence.SkipsNext (left.allocate value).2 (right.allocate otherValue).2 count := by
  constructor <;> intro address other index_ge index_lt <;>
    rw [size_allocate] at index_ge index_lt
  · exact skips.left address other (by omega) (by omega)
  · exact skips.right address other (by omega) (by omega)

theorem Agrees.allocateAll (agrees : left.Agrees correspondence right) (values : List Value)
    (skips : correspondence.SkipsNext left right (values.length + count)) :
    (left.allocateAll values).2.Agrees correspondence (right.allocateAll values).2 ∧
      correspondence.SkipsNext (left.allocateAll values).2 (right.allocateAll values).2 count := by
  induction values generalizing left right with
  | nil =>
      rw [List.length_nil, Nat.zero_add] at skips
      exact ⟨agrees, skips⟩
  | cons value rest ih =>
      rw [List.length_cons, Nat.add_right_comm] at skips
      exact ih (agrees.allocate_skipped skips) (skipsNext_allocate skips)

/-- New lists that do not count as new can have slots. -/
theorem Agrees.newList (agrees : left.Agrees correspondence right)
    (left_lt : left.lists.size < correspondence.leftLists)
    (right_lt : right.lists.size < correspondence.rightLists)
    (slots otherSlots : Array (Option Address)) :
    (left.newList slots).2.Agrees correspondence (right.newList otherSlots).2 := by
  have stays_empty {memory : Memory} {handle : ListHandle} {slots : Array (Option Address)}
      (empty : memory.slots handle = #[]) (behind : memory.lists.size < handle.index) :
      (memory.newList slots).2.slots handle = #[] := by
    have different : handle ≠ ⟨memory.lists.size⟩ := by
      rintro rfl
      exact Nat.lt_irrefl _ behind
    rw [Memory.newList, slots_withSlots, if_neg different]
    exact empty
  constructor
  · exact agrees.lookup
  · intro handle new
    exact stays_empty (agrees.left_empty handle new) (Nat.lt_of_lt_of_le left_lt new)
  · intro handle new
    exact stays_empty (agrees.right_empty handle new) (Nat.lt_of_lt_of_le right_lt new)

end Memory

namespace SharedState

variable {left right : SharedState}

/-- Arguments are passed in cells that are not paired, and in a list that does not count as new. -/
theorem agrees_passArguments (values : List Value)
    (agrees : left.memory.Agrees correspondence right.memory)
    (skips : correspondence.SkipsNext left.memory right.memory (values.length + 1))
    (left_lt : left.memory.lists.size < correspondence.leftLists)
    (right_lt : right.memory.lists.size < correspondence.rightLists) :
    (left.passArguments values).memory.Agrees correspondence
      (right.passArguments values).memory := by
  obtain ⟨elements, skipsList⟩ := agrees.allocateAll values skips
  have list := elements.newList (by simpa using left_lt) (by simpa using right_lt)
    ((left.memory.allocateAll values).1.map some).toArray
    ((right.memory.allocateAll values).1.map some).toArray
  exact list.allocate_skipped ⟨skipsList.left, skipsList.right⟩

end SharedState

/-! ## Beginnings -/

/-- Addresses at one distance from two ends are the same as others on both sides or on none. -/
theorem Address.eq_iff_of_distance {left right distance otherDistance : Nat}
    {first second otherFirst otherSecond : Address} (first_eq : first.index = left + distance)
    (second_eq : second.index = right + distance)
    (otherFirst_eq : otherFirst.index = left + otherDistance)
    (otherSecond_eq : otherSecond.index = right + otherDistance) :
    first = otherFirst ↔ second = otherSecond := by
  cases first
  cases second
  cases otherFirst
  cases otherSecond
  simp only [Address.mk.injEq] at *
  omega

/-- Pairs cells at the same distance from the ends of two memories, for what is declared and for
what is behind a number of cells that follow. -/
def Correspondence.behind (left right : Memory) (declared hidden lists : Nat) :
    Correspondence where
  cells address other := ∃ distance, address.index = left.size + distance ∧
    other.index = right.size + distance ∧ (distance < declared ∨ declared + hidden ≤ distance)
  injective := by
    rintro _ _ _ _ ⟨_, first_eq, second_eq, -⟩ ⟨_, otherFirst_eq, otherSecond_eq, -⟩
    exact Address.eq_iff_of_distance first_eq second_eq otherFirst_eq otherSecond_eq
  leftLists := left.lists.size + lists
  rightLists := right.lists.size + lists

namespace Correspondence

variable (left right : Memory) (declared hidden lists : Nat)

theorem agrees_behind : left.Agrees (behind left right declared hidden lists) right where
  lookup := by
    rintro address other ⟨distance, index_eq, other_eq, -⟩
    rw [Memory.lookup_of_size_le (by omega), Memory.lookup_of_size_le (by omega)]
    exact Value.corresponds_none
  left_empty handle new := Memory.slots_of_size_le (Nat.le_of_add_right_le new)
  right_empty handle new := Memory.slots_of_size_le (Nat.le_of_add_right_le new)

theorem pairsNext_behind :
    (behind left right declared hidden lists).PairsNext left right declared :=
  fun _ _ distance distance_lt index_eq other_eq =>
    ⟨distance, index_eq, other_eq, .inl distance_lt⟩

variable {left right declared hidden lists} {after otherAfter : Memory}

theorem skipsNext_behind (size_eq : after.size = left.size + declared)
    (otherSize_eq : otherAfter.size = right.size + declared) :
    (behind left right declared hidden lists).SkipsNext after otherAfter hidden := by
  constructor <;> rintro address other index_ge index_lt ⟨distance, index_eq, other_eq, paired⟩ <;>
    omega

/-- Memories in which what is hidden is there correspond, if they agree. -/
theorem corresponds_behind
    (agrees : after.Agrees (behind left right declared hidden lists) otherAfter)
    (size_eq : after.size = left.size + declared + hidden)
    (otherSize_eq : otherAfter.size = right.size + declared + hidden)
    (lists_eq : after.lists.size = left.lists.size + lists)
    (otherLists_eq : otherAfter.lists.size = right.lists.size + lists) :
    after.Corresponds (behind left right declared hidden lists) otherAfter where
  toAgrees := agrees
  supply address other distance index_eq other_eq :=
    ⟨declared + hidden + distance, by omega, by omega, .inr (Nat.le_add_right _ _)⟩
  leftLists_le := Nat.le_of_eq lists_eq.symm
  rightLists_le := Nat.le_of_eq otherLists_eq.symm

end Correspondence

namespace Program

/-- The cells for arguments: one for each and one for their list. -/
def argumentCells : Option (List Value) → Nat
  | none => 0
  | some values => values.length + 1

/-- The lists for arguments. -/
def argumentLists (arguments : Option (List Value)) : Nat := if arguments.isSome then 1 else 0

variable (program : Program) (arguments : Option (List Value)) (left right : SharedState)

/-- In which way the beginnings of a program correspond. -/
def beginning : Correspondence :=
  .behind left.memory right.memory program.declared (argumentCells arguments)
    (argumentLists arguments)

theorem binds_beginning :
    (program.beginning arguments left right).Binds 0
      ((program.declare left).2.shared.memory, (program.declare left).2.scope.vars)
      ((program.declare right).2.shared.memory, (program.declare right).2.scope.vars) :=
  program.binds_declare left right 0 (Correspondence.agrees_behind _ _ _ _ _)
    (Correspondence.pairsNext_behind _ _ _ _ _)

/-- The memories correspond when also the arguments are there. -/
theorem memory_withArguments :
    ((program.declare left).2.withArguments arguments).shared.memory.Corresponds
      (program.beginning arguments left right)
      ((program.declare right).2.withArguments arguments).shared.memory := by
  have agrees := (program.binds_beginning arguments left right).memory
  have left_size := program.size_declare left
  have right_size := program.size_declare right
  have left_lists := congrArg Table.size (program.lists_declare left)
  have right_lists := congrArg Table.size (program.lists_declare right)
  cases arguments with
  | none =>
      exact Correspondence.corresponds_behind agrees left_size right_size left_lists right_lists
  | some values =>
      have agreesPassed := SharedState.agrees_passArguments values agrees
        (Correspondence.skipsNext_behind left_size right_size)
        (Nat.lt_succ_of_le (Nat.le_of_eq left_lists))
        (Nat.lt_succ_of_le (Nat.le_of_eq right_lists))
      apply Correspondence.corresponds_behind agreesPassed
      · rw [SharedState.size_passArguments, left_size]
        rfl
      · rw [SharedState.size_passArguments, right_size]
        rfl
      · rw [SharedState.size_lists_passArguments, left_lists]
        rfl
      · rw [SharedState.size_lists_passArguments, right_lists]
        rfl

theorem registers_withArguments (shared : SharedState) {index : UInt8} (not_zero : index ≠ 0) :
    ((program.declare shared).2.withArguments arguments).shared.registers.get index =
      shared.registers.get index := by
  cases arguments with
  | none => rfl
  | some values => exact (Registers.get_set _ _ _ _).trans (if_neg not_zero)

theorem withArguments_corresponds (registers_eq : left.registers = right.registers)
    (registry_eq : left.registry = right.registry)
    (libraries_eq : left.libraries = right.libraries) :
    ((program.declare left).2.withArguments arguments).Corresponds
      (program.beginning arguments left right)
      ((program.declare right).2.withArguments arguments) := by
  refine ⟨⟨program.memory_withArguments arguments left right, ?_, ?_, ?_⟩,
    scope_declare (program.binds_beginning arguments left right)⟩
  · intro index not_zero
    simp only [registers_withArguments _ _ _ not_zero]
    rw [registers_eq]
  · cases arguments <;> exact registry_eq
  · cases arguments <;> exact libraries_eq

/-- Whatever two states are, there is a correspondence for which a program is linked alike in them
when they are reset first. -/
theorem exists_linkedAlike (host : Host) :
    ∃ correspondence, LinkedAlike correspondence (program.link host arguments true left)
      (program.link host arguments true right) := by
  apply Exists.intro (program.beginning arguments left right)
  apply linkedAlike_of_declare left.reset right.reset rfl rfl rfl rfl
  intro registry libraries
  exact program.withArguments_corresponds arguments
    { left.reset with registry := registry, libraries := libraries }
    { right.reset with registry := registry, libraries := libraries } rfl rfl rfl

end Program

/-- An execution begins at the same offset in corresponding scopes. -/
theorem Scope.Corresponds.entryOffset_eq {left right : Scope}
    (corresponds : left.Corresponds correspondence right) (entry : Entry) :
    left.entryOffset entry = right.entryOffset entry := by
  unfold entryOffset
  rw [corresponds.labels_eq]

end ScriptMachine
