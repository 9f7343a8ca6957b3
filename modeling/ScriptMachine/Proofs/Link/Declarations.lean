import ScriptMachine.Machine.Link
import ScriptMachine.Proofs.Machine.Effect

/-!
# Declarations

What the declarations of a program and the arguments of an execution add to a memory.  Constants
and variables get the next cells in their order, and nothing that was there before is changed.
Arguments get further cells, and one list.

A constant is bound as a variable is, except that it has a value and no name.  What holds of all
that is bound is therefore said of `Declaration.bindAll`, for both at once.
-/

namespace ScriptMachine

namespace Memory

@[simp] theorem size_allocateAll (memory : Memory) (values : List Value) :
    (memory.allocateAll values).2.size = memory.size + values.length := by
  induction values generalizing memory with
  | nil => rfl
  | cons value rest ih =>
      have size_eq := ih (memory.allocate value).2
      rw [size_allocate, Nat.add_right_comm] at size_eq
      exact size_eq

@[simp] theorem lists_allocateAll (memory : Memory) (values : List Value) :
    (memory.allocateAll values).2.lists = memory.lists := by
  induction values generalizing memory with
  | nil => rfl
  | cons value rest ih => exact (ih _).trans (lists_allocate memory value)

theorem preserves_allocateAll (memory : Memory) (values : List Value) :
    memory.Preserves (memory.allocateAll values).2 := by
  induction values generalizing memory with
  | nil => exact preserves_refl memory
  | cons value rest ih => exact (preserves_allocate memory value).trans (ih _)

/-- The values are in the next cells in their order. -/
theorem lookup_allocateAll (memory : Memory) {values : List Value} {position : Nat} {value : Value}
    (found : values[position]? = some value) {address : Address}
    (index_eq : address.index = memory.size + position) :
    (memory.allocateAll values).2.lookup address = value := by
  induction values generalizing memory position with
  | nil => cases found
  | cons first rest ih =>
      cases position with
      | zero =>
          rcases Option.some.inj found with rfl
          have preserves := preserves_allocateAll (memory.allocate first).2 rest
          have inside : address.index < (memory.allocate first).2.size := by
            rw [size_allocate, index_eq]
            exact Nat.lt_succ_self _
          apply (preserves.lookup_eq address inside).trans
          exact (lookup_allocate _ _ _).trans (if_pos index_eq)
      | succ position =>
          apply ih (memory.allocate first).2 found
          rw [size_allocate, index_eq, Nat.add_assoc, Nat.add_comm 1]

end Memory

/-! ## Binding -/

/-- What a program declares for a variable: how it is bound, and the value of its cell. -/
structure Declaration where
  index : Nat
  name : String
  visibility : Visibility
  value : Value

namespace Declaration

/-- The binding to a cell. -/
def binding (declaration : Declaration) (address : Address) : Binding Address :=
  ⟨declaration.name, declaration.visibility, some address⟩

def ofConstant (constant : ConstantDefinition) : Declaration :=
  ⟨constant.index.toNat, "", .hidden, .ofLiteral constant.value⟩

def ofVariable (definition : VariableDefinition) : Declaration :=
  ⟨definition.index.toNat, definition.name, definition.visibility, .none⟩

/-- Puts the values of declarations into new cells and binds their indices. -/
def bindAll (memory : Memory) (vars : Variables) : List Declaration → Memory × Variables
  | [] => (memory, vars)
  | declaration :: rest =>
      let (address, memory) := memory.allocate declaration.value
      bindAll memory (vars.set declaration.index (declaration.binding address)) rest

variable (memory : Memory) (vars : Variables)

theorem fst_bindAll (declarations : List Declaration) :
    (bindAll memory vars declarations).1 =
      (memory.allocateAll (declarations.map Declaration.value)).2 := by
  induction declarations generalizing memory vars with
  | nil => rfl
  | cons declaration rest ih => exact ih _ _

theorem bindAll_append (first second : List Declaration) :
    bindAll memory vars (first ++ second) =
      bindAll (bindAll memory vars first).1 (bindAll memory vars first).2 second := by
  induction first generalizing memory vars with
  | nil => rfl
  | cons declaration rest ih => exact ih _ _

theorem bindConstants_eq (constants : List ConstantDefinition) :
    Program.bindConstants memory vars constants =
      bindAll memory vars (constants.map ofConstant) := by
  induction constants generalizing memory vars with
  | nil => rfl
  | cons constant rest ih => exact ih _ _

theorem bindVariables_eq (definitions : List VariableDefinition) :
    Program.bindVariables memory vars definitions =
      bindAll memory vars (definitions.map ofVariable) := by
  induction definitions generalizing memory vars with
  | nil => rfl
  | cons definition rest ih => exact ih _ _

end Declaration

namespace Program

/-- What a program declares, in the order in which it is bound. -/
def declarations (program : Program) : List Declaration :=
  program.constants.map .ofConstant ++ program.vars.map .ofVariable

/-- The number of cells that declarations get. -/
def declared (program : Program) : Nat := program.constants.length + program.vars.length

variable (program : Program) (shared : SharedState)

theorem length_declarations : program.declarations.length = program.declared := by
  simp [declarations, declared]

/-- Constants are bound first, and variables then. -/
theorem bound_declare :
    ((program.declare shared).2.shared.memory, (program.declare shared).2.scope.vars) =
      Declaration.bindAll shared.memory .empty program.declarations := by
  rw [declarations, Declaration.bindAll_append, ← Declaration.bindConstants_eq,
    ← Declaration.bindVariables_eq]
  rfl

theorem vars_declare :
    (program.declare shared).2.scope.vars =
      (Declaration.bindAll shared.memory .empty program.declarations).2 :=
  congrArg Prod.snd (program.bound_declare shared)

theorem memory_declare :
    (program.declare shared).2.shared.memory =
      (shared.memory.allocateAll (program.declarations.map Declaration.value)).2 := by
  rw [← Declaration.fst_bindAll shared.memory .empty, ← bound_declare]

theorem size_declare :
    (program.declare shared).2.shared.memory.size = shared.memory.size + program.declared := by
  rw [memory_declare, Memory.size_allocateAll, List.length_map, length_declarations]

theorem lists_declare :
    (program.declare shared).2.shared.memory.lists = shared.memory.lists := by
  rw [memory_declare, Memory.lists_allocateAll]

/-- Declared values are plain. -/
theorem isPlain_of_mem_declarations {declaration : Declaration}
    (member : declaration ∈ program.declarations) : declaration.value.IsPlain := by
  rcases List.mem_append.mp member with inConstants | inVars
  · rcases List.mem_map.mp inConstants with ⟨constant, -, rfl⟩
    exact Value.isPlain_ofLiteral constant.value
  · rcases List.mem_map.mp inVars with ⟨definition, -, rfl⟩
    trivial

end Program

namespace SharedState

theorem size_passArguments (shared : SharedState) (values : List Value) :
    (shared.passArguments values).memory.size = shared.memory.size + (values.length + 1) := by
  calc (shared.passArguments values).memory.size
      = (shared.memory.allocateAll values).2.size + 1 := Memory.size_allocate _ _
    _ = shared.memory.size + (values.length + 1) := by
        rw [Memory.size_allocateAll, Nat.add_assoc]

theorem size_lists_passArguments (shared : SharedState) (values : List Value) :
    (shared.passArguments values).memory.lists.size = shared.memory.lists.size + 1 := by
  simp [passArguments, Memory.lists_allocate, Memory.newListOf]

theorem preserves_passArguments (shared : SharedState) (values : List Value) :
    shared.memory.Preserves (shared.passArguments values).memory :=
  ((shared.memory.preserves_allocateAll values).trans (Memory.preserves_newList _ _)).trans
    (Memory.preserves_allocate _ _)

end SharedState

/-- The context of a program when it has got its arguments, if there are any. -/
def Context.withArguments (arguments : Option (List Value)) (context : Context) : Context :=
  { context with shared := arguments.elim context.shared context.shared.passArguments }

end ScriptMachine
