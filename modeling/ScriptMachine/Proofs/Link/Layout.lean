import ScriptMachine.Proofs.Link.Declarations
import ScriptMachine.Proofs.Link.Independence
import ScriptMachine.Proofs.Link.Labels

/-!
# The layout of declarations

Where the variables of a program are when it has been linked.  The constants get the next cells,
then the variables, and then the arguments if there are any, so that every declaration has a cell
of its own, also one whose index is declared again.  What an index is bound to is what was declared
for it last: the last variable of that index, or if there is none the last constant.

Different indices are therefore bound to different cells, none of which existed before.  This
is why programs that are linked one after the other, or one program that is linked several times,
share no variables.
-/

namespace ScriptMachine

/-! ## Bindings -/

namespace Declaration

variable (memory : Memory) (vars : Variables) {declarations : List Declaration} {index : Nat}

theorem get?_bindAll_of_absent (absent : ∀ other ∈ declarations, other.index ≠ index) :
    (bindAll memory vars declarations).2.get? index = vars.get? index := by
  induction declarations generalizing memory vars with
  | nil => rfl
  | cons first rest ih =>
      rcases List.forall_mem_cons.mp absent with ⟨first_ne, absent⟩
      exact (ih _ _ absent).trans (Table.get?_set_ne first_ne.symm)

/-- An index is bound to the cell of its last declaration. -/
theorem get?_bindAll_of_last {position : Nat} {declaration : Declaration}
    (last : LastAt (fun other => other.index = index) declarations position declaration) :
    ∃ address, address.index = memory.size + position ∧
      (bindAll memory vars declarations).2.get? index = some (declaration.binding address) := by
  induction last generalizing memory vars with
  | head holds none_later =>
      subst holds
      exact ⟨_, rfl, (get?_bindAll_of_absent _ _ none_later).trans (Table.get?_set_self _ _ _)⟩
  | @tail first _ _ _ _ ih =>
      rcases ih (memory.allocate first.value).2 _ with ⟨address, index_eq, bound⟩
      rw [Memory.size_allocate, Nat.add_assoc, Nat.add_comm 1] at index_eq
      exact ⟨address, index_eq, bound⟩

end Declaration

namespace Program

variable {program : Program} (shared : SharedState) {index position : Nat}

theorem exists_last {declaration : Declaration} (member : declaration ∈ program.declarations)
    (holds : declaration.index = index) :
    ∃ position last,
      LastAt (fun other => other.index = index) program.declarations position last :=
  LastAt.exists_of_mem member holds

/-- A variable is bound to the cell of its last declaration, which holds what is declared. -/
theorem declared_of_last {declaration : Declaration}
    (last : LastAt (fun other => other.index = index) program.declarations position declaration) :
    ∃ address, address.index = shared.memory.size + position ∧
      (program.declare shared).2.scope.vars.get? index = some (declaration.binding address) ∧
      (program.declare shared).2.shared.memory.lookup address = declaration.value := by
  rcases Declaration.get?_bindAll_of_last shared.memory .empty last with
    ⟨address, index_eq, bound⟩
  have found :
      (program.declarations.map Declaration.value)[position]? = some declaration.value := by
    rw [List.getElem?_map, last.getElem?_eq]
    rfl
  refine ⟨address, index_eq, ?_, ?_⟩
  · rw [vars_declare]
    exact bound
  · rw [memory_declare]
    exact Memory.lookup_allocateAll _ found index_eq

/-- What is bound has been declared. -/
theorem exists_last_of_bound {binding : Binding Address}
    (bound : (program.declare shared).2.scope.vars.get? index = some binding) :
    ∃ position declaration address,
      LastAt (fun other => other.index = index) program.declarations position declaration ∧
        address.index = shared.memory.size + position ∧ binding = declaration.binding address := by
  by_cases declared : ∃ declaration ∈ program.declarations, declaration.index = index
  · rcases declared with ⟨declaration, member, holds⟩
    rcases exists_last member holds with ⟨position, last, lastAt⟩
    rcases declared_of_last shared lastAt with ⟨address, index_eq, bound', -⟩
    exact ⟨position, last, address, lastAt, index_eq, Option.some.inj (bound.symm.trans bound')⟩
  · have absent : ∀ other ∈ program.declarations, other.index ≠ index :=
      fun other member holds => declared ⟨other, member, holds⟩
    rw [vars_declare, Declaration.get?_bindAll_of_absent _ _ absent] at bound
    cases bound

theorem exists_mem_declarations_iff :
    (∃ declaration ∈ program.declarations, declaration.index = index) ↔
      (∃ constant ∈ program.constants, constant.index.toNat = index) ∨
        ∃ definition ∈ program.vars, definition.index.toNat = index := by
  constructor
  · rintro ⟨declaration, member, holds⟩
    rcases List.mem_append.mp member with inConstants | inVars
    · rcases List.mem_map.mp inConstants with ⟨constant, inside, rfl⟩
      exact .inl ⟨constant, inside, holds⟩
    · rcases List.mem_map.mp inVars with ⟨definition, inside, rfl⟩
      exact .inr ⟨definition, inside, holds⟩
  · rintro (⟨constant, inside, holds⟩ | ⟨definition, inside, holds⟩)
    · exact ⟨_, List.mem_append_left _ (List.mem_map_of_mem inside), holds⟩
    · exact ⟨_, List.mem_append_right _ (List.mem_map_of_mem inside), holds⟩

/-- The last variable of an index is declared after all that else is declared for it. -/
theorem last_ofVariable {definition : VariableDefinition}
    (last : LastAt (fun other => other.index.toNat = index) program.vars position definition) :
    LastAt (fun other => other.index = index) program.declarations
      (program.constants.length + position) (.ofVariable definition) := by
  have mapped : LastAt (fun other => other.index = index)
      (program.vars.map Declaration.ofVariable) position (.ofVariable definition) := last.map
  have appended := mapped.append_left (program.constants.map Declaration.ofConstant)
  rw [List.length_map] at appended
  exact appended

/-- The last constant of an index is declared last if there is no variable of that index. -/
theorem last_ofConstant {constant : ConstantDefinition}
    (no_variable : ∀ definition ∈ program.vars, definition.index.toNat ≠ index)
    (last : LastAt (fun other => other.index.toNat = index) program.constants position constant) :
    LastAt (fun other => other.index = index) program.declarations position
      (.ofConstant constant) := by
  have mapped : LastAt (fun other => other.index = index)
      (program.constants.map Declaration.ofConstant) position (.ofConstant constant) := last.map
  apply mapped.append_right
  intro other member
  rcases List.mem_map.mp member with ⟨definition, inside, rfl⟩
  exact no_variable definition inside

/-! ## Linked programs -/

/-- Linking that succeeds declares and passes arguments in a state with the memory that there
was, and with the registers unless they were reset. -/
theorem exists_declared_of_link {shared : SharedState} {host : Host}
    {arguments : Option (List Value)} {fresh : Bool} {linked : Context}
    (links : program.link host arguments fresh shared = (.ok (), linked)) :
    ∃ imported : SharedState, imported.memory = shared.memory ∧
      imported.registers = (if fresh then shared.reset else shared).registers ∧
        linked = (program.declare imported).2.withArguments arguments := by
  cases links_of_link links with
  | @linked imported _ imports declares =>
      rcases SharedState.store_eq_of_linkImports host imports with ⟨memory_eq, registers_eq⟩
      have start_eq : (if fresh then shared.reset else shared).memory = shared.memory := by
        cases fresh <;> rfl
      refine ⟨imported, memory_eq.trans start_eq, registers_eq, ?_⟩
      rw [declares]
      rfl

/-- Where the variables of a program are in the context that linking leaves, behind the memory that
there was before.  Positions are counted among the constants and among the variables. -/
structure LaidOut (program : Program) (arguments : Option (List Value)) (before : Memory)
    (linked : Context) : Prop where
  preserves : before.Preserves linked.shared.memory
  size_eq : linked.shared.memory.size =
    before.size + program.constants.length + program.vars.length +
      arguments.elim 0 fun values => values.length + 1
  bound_iff : ∀ index, (∃ binding, linked.scope.vars.get? index = some binding) ↔
    (∃ constant ∈ program.constants, constant.index.toNat = index) ∨
      ∃ definition ∈ program.vars, definition.index.toNat = index
  of_variable : ∀ index position definition,
    LastAt (fun other => other.index.toNat = index) program.vars position definition →
    ∃ address, address.index = before.size + program.constants.length + position ∧
      linked.scope.vars.get? index =
        some ⟨definition.name, definition.visibility, some address⟩ ∧
      linked.shared.memory.lookup address = .none
  of_constant : ∀ index position constant,
    (∀ definition ∈ program.vars, definition.index.toNat ≠ index) →
    LastAt (fun other => other.index.toNat = index) program.constants position constant →
    ∃ address, address.index = before.size + position ∧
      linked.scope.vars.get? index = some (.anonymous (some address)) ∧
      linked.shared.memory.lookup address = .ofLiteral constant.value
  outside : ∀ index binding, linked.scope.vars.get? index = some binding →
    ∃ address, binding.target = some address ∧ before.size ≤ address.index
  distinct : ∀ index other binding otherBinding, linked.scope.vars.get? index = some binding →
    linked.scope.vars.get? other = some otherBinding → index ≠ other →
    binding.target ≠ otherBinding.target

theorem preserves_declare : shared.memory.Preserves (program.declare shared).2.shared.memory := by
  rw [memory_declare]
  exact Memory.preserves_allocateAll _ _

theorem laidOut_declare :
    program.LaidOut none shared.memory (program.declare shared).2 where
  preserves := preserves_declare shared
  size_eq := by
    rw [size_declare, declared, ← Nat.add_assoc]
    rfl
  bound_iff index := by
    rw [← exists_mem_declarations_iff]
    constructor
    · rintro ⟨binding, bound⟩
      rcases exists_last_of_bound shared bound with ⟨position, declaration, -, last, -⟩
      exact ⟨declaration, List.mem_of_getElem? last.getElem?_eq, last.holds⟩
    · rintro ⟨declaration, member, holds⟩
      rcases exists_last member holds with ⟨position, last, lastAt⟩
      rcases declared_of_last shared lastAt with ⟨address, -, bound, -⟩
      exact ⟨_, bound⟩
  of_variable index position definition last := by
    rcases declared_of_last shared (last_ofVariable last) with
      ⟨address, index_eq, declared⟩
    rw [← Nat.add_assoc] at index_eq
    exact ⟨address, index_eq, declared⟩
  of_constant index position constant no_variable last :=
    declared_of_last shared (last_ofConstant no_variable last)
  outside index binding bound := by
    rcases exists_last_of_bound shared bound with ⟨position, declaration, address, -, index_eq, rfl⟩
    exact ⟨address, rfl, Nat.le.intro index_eq.symm⟩
  distinct index other binding otherBinding bound otherBound different := by
    rcases exists_last_of_bound shared bound with
      ⟨position, declaration, address, last, index_eq, rfl⟩
    rcases exists_last_of_bound shared otherBound with
      ⟨otherPosition, otherDeclaration, otherAddress, otherLast, other_eq, rfl⟩
    intro target_eq
    -- The cells of two declarations are the same only if their positions are.
    rcases Option.some.inj target_eq with rfl
    rcases Nat.add_left_cancel (index_eq.symm.trans other_eq) with rfl
    rcases Option.some.inj (last.getElem?_eq.symm.trans otherLast.getElem?_eq) with rfl
    exact different (last.holds.symm.trans otherLast.holds)

/-- Arguments are passed behind what is declared. -/
theorem LaidOut.withArguments {before : Memory} {declared : Context}
    (laidOut : program.LaidOut none before declared) (arguments : Option (List Value)) :
    program.LaidOut arguments before (declared.withArguments arguments) := by
  cases arguments with
  | none => exact laidOut
  | some values =>
      have passed := declared.shared.preserves_passArguments values
      have size_eq : declared.shared.memory.size =
          before.size + program.constants.length + program.vars.length := laidOut.size_eq
      constructor
      · exact laidOut.preserves.trans passed
      · rw [← size_eq]
        exact declared.shared.size_passArguments values
      · exact laidOut.bound_iff
      · intro index position definition last
        rcases laidOut.of_variable index position definition last with
          ⟨address, index_eq, bound, held⟩
        have inside : address.index < declared.shared.memory.size := by
          rw [index_eq, size_eq]
          exact Nat.add_lt_add_left last.lt_length _
        exact ⟨address, index_eq, bound, (passed.lookup_eq address inside).trans held⟩
      · intro index position constant no_variable last
        rcases laidOut.of_constant index position constant no_variable last with
          ⟨address, index_eq, bound, held⟩
        have inside : address.index < declared.shared.memory.size := by
          rw [index_eq, size_eq]
          exact Nat.lt_add_right _ (Nat.add_lt_add_left last.lt_length _)
        exact ⟨address, index_eq, bound, (passed.lookup_eq address inside).trans held⟩
      · exact laidOut.outside
      · exact laidOut.distinct

/-- A program that is linked is laid out behind the memory that there was, whether or not the
rest was reset and whether or not it is passed arguments. -/
theorem link_layout {shared : SharedState} {host : Host} {arguments : Option (List Value)}
    {fresh : Bool} {linked : Context}
    (links : program.link host arguments fresh shared = (.ok (), linked)) :
    program.LaidOut arguments shared.memory linked := by
  rcases exists_declared_of_link links with ⟨imported, memory_eq, -, rfl⟩
  rw [← memory_eq]
  exact (laidOut_declare imported).withArguments arguments

/-- A program that declares two of its variables twice, and one not at all. -/
def redeclaringProgram : Program where
  imports := []
  constants := [⟨1, .text "first"⟩, ⟨0, .text "hidden"⟩, ⟨1, .text "second"⟩]
  vars := [⟨0, "result", .exported⟩, ⟨3, "", .hidden⟩]
  functions := []
  instructions := #[]

theorem link_layout_redeclaringProgram :
    ∃ linked constant result,
      redeclaringProgram.link Host.empty (some [.none]) true SharedState.empty = (.ok (), linked) ∧
        linked.shared.memory.size = Memory.empty.size + 7 ∧
        linked.scope.vars.get? 1 = some (.anonymous (some constant)) ∧
        linked.shared.memory.lookup constant = .text "second" ∧
        linked.scope.vars.get? 0 = some ⟨"result", .exported, some result⟩ ∧
        linked.shared.memory.lookup result = .none ∧
        (¬∃ binding, linked.scope.vars.get? 2 = some binding) ∧ constant ≠ result := by
  have linking : ∃ linked, redeclaringProgram.link Host.empty (some [.none]) true
      SharedState.empty = (.ok (), linked) := ⟨_, rfl⟩
  rcases linking with ⟨linked, links⟩
  have layout := link_layout links
  have second : LastAt (fun other => other.index.toNat = 1) redeclaringProgram.constants 2
      ⟨1, .text "second"⟩ := .tail (.tail (.head rfl (by decide)))
  have first : LastAt (fun other => other.index.toNat = 0) redeclaringProgram.vars 0
      ⟨0, "result", .exported⟩ := .head rfl (by decide)
  rcases layout.of_constant 1 2 _ (by decide) second with ⟨constant, -, constant_bound, literal⟩
  rcases layout.of_variable 0 0 _ first with ⟨result, -, result_bound, empty⟩
  have unbound : ¬∃ binding, linked.scope.vars.get? 2 = some binding := by
    rw [layout.bound_iff]
    decide
  have different : constant ≠ result := by
    have targets_ne := layout.distinct 1 0 _ _ constant_bound result_bound (by decide)
    rintro rfl
    exact targets_ne rfl
  exact ⟨linked, constant, result, links, layout.size_eq, constant_bound, literal, result_bound,
    empty, unbound, different⟩

end Program

end ScriptMachine
