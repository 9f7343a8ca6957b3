import ScriptMachine.Proofs.Isolation.Arguments
import ScriptMachine.Proofs.Machine.Callees
import ScriptMachine.Proofs.Registry.Permanence
import ScriptMachine.Proofs.Registry.Precedence

/-!
# Precedence of host functions

Linking registers the functions of the host before it looks at any import, so that a function of the
host is found in place of a function of a module or a library that has its name.  But a name that is
registered stays registered as long as the engine does not forget: a function of the host comes too
late for a name that an earlier execution has found elsewhere.

`Registry.Admits` says that it does not come too late.  Every action of the host and every execution
keeps the name admitted, since linking registers it for the function of the host before anything
else.
-/

namespace ScriptMachine

/-- A name is registered for one function of the host, if it is registered. -/
def Registry.Admits (registry : Registry) (name : String) (id : NativeId) : Prop :=
  ∀ linked, registry.get? name = some linked → linked = .native id

/-! ## Linking -/

section Linking

variable {host : Host} {name : String} {id : NativeId}

theorem Registry.admits_of_get? {registry : Registry}
    (found : registry.get? name = some (.native id)) : registry.Admits name id := by
  intro linked found'
  exact Option.some.inj (found'.symm.trans found)

theorem Registry.exists_of_not_admits {registry : Registry}
    (refused : ¬registry.Admits name id) :
    ∃ linked, registry.get? name = some linked ∧ linked ≠ .native id := by
  obtain ⟨linked, refused⟩ := Classical.not_forall.mp refused
  exact ⟨linked, Classical.not_imp.mp refused⟩

theorem lookup_map_native (entries : List (String × NativeId)) (name : String) :
    (entries.map fun (name, id) => (name, Linked.native id)).lookup name =
      (entries.lookup name).map .native := by
  induction entries with
  | nil => rfl
  | cons first rest ih =>
      rw [List.map_cons, List.lookup_cons, List.lookup_cons, ih]
      cases name == first.1 <;> rfl

theorem Registry.get?_registerAll_of_admits {registry : Registry}
    {entries : List (String × NativeId)} (admits : registry.Admits name id)
    (listed : entries.lookup name = some id) :
    (registry.registerAll (entries.map fun (name, id) => (name, .native id))).get? name =
      some (.native id) := by
  rw [get?_registerAll, lookup_map_native, listed]
  cases found : registry.get? name with
  | none => rfl
  | some linked => rw [admits linked found, Option.some_or]

/-- Whether or not linking succeeds, a function of the host is registered if its name admits it. -/
theorem Program.Links.get?_hostFunction {program : Program} {arguments : Option (List Value)}
    {start : SharedState} {result : Except ExecutionError Unit} {linked : Context}
    (links : program.Links host arguments start result linked)
    (admits : start.registry.Admits name id) (listed : host.functions.lookup name = some id) :
    linked.shared.registry.get? name = some (.native id) := by
  obtain ⟨outcome, imported, imports, registry_eq, -⟩ := links.imports
  have ends := SharedState.linkImports_adds_registered host program start
  have registered := Registry.get?_registerAll_of_admits admits listed
  rw [registry_eq]
  cases outcome with
  | error cause => exact (ends.of_run_error imports).registry name _ registered
  | ok => exact (ends.of_run_ok imports).registry name _ registered

end Linking

/-! ## Calls -/

theorem Value.asList_error {value : Value} {mismatch : Mismatch}
    (refused : value.asList = .error mismatch) : mismatch = ⟨.list, value.kind⟩ := by
  cases value <;> cases refused <;> rfl

namespace Instruction

variable {host : Host} {context : Context}

/-- The arguments of a host function are found unless register zero holds the address of something
else than a list. -/
theorem callArguments_ends (context : Context) :
    callArguments.Ends context (fun values _ => values = context.arguments)
      (fun cause _ => ∃ kind, cause = .typeMismatch ⟨.list, kind⟩) := by
  have inspects := inspects_callArguments context
  have fst_eq := fst_callArguments context
  rcases run : callArguments.run context with ⟨cause | values, after⟩
  · apply (Task.ends_iff_of_run_error run).mpr
    rw [run] at fst_eq
    split at fst_eq
    · cases fst_eq
    · split at fst_eq
      · cases fst_eq
      · rename_i refused
        cases fst_eq
        rw [Value.asList_error refused]
        exact ⟨_, rfl⟩
  · exact (Task.ends_iff_of_run_ok run).mpr (inspects.of_run_ok run).2

/-- A call by a name that is registered for a function of the host goes on with it. -/
theorem call_ends_of_native {callee : Operand} {name : String} {id : NativeId}
    {function : NativeFunction} (depth : Nat)
    (evaluated : callee.evaluate context = .ok (.text name))
    (found : context.shared.registry.get? name = some (.native id))
    (registered : host.native? id = some function) :
    (call host depth callee).Ends context
      (fun flow _ => flow = .callNative name id function context.arguments)
      (fun cause _ => ∃ kind, cause = .typeMismatch ⟨.list, kind⟩) := by
  unfold call
  split
  · cases evaluated
  · apply ends_load_bind evaluated
    intro after padded
    apply Task.ends_bind.mpr (Task.ends_get.mpr _)
    rw [padded.growsTo.registry_eq, found]
    simp only [callNative, registered]
    apply Task.ends_bind.mpr
    apply (callArguments_ends after).mono _ (fun _ _ refused => refused)
    rintro _ afterArguments rfl
    rw [Context.arguments_of_paddedTo padded]
    exact (Task.ends_pure _).mpr rfl

end Instruction

namespace Machine

/-- The next instruction calls what has a name. -/
inductive CallsByName (machine : Machine) (name : String) : Prop where
  | intro {instruction : Instruction}
      (current : machine.current.instruction? = some instruction)
      (opcode_eq : instruction.opcode = .call)
      (evaluated : (instruction.operand 1).evaluate machine.context = .ok (.text name)) :
      CallsByName machine name

/-- The next instruction goes on with a function of the host, by a name, unless register zero holds
the address of something else than a list of arguments. -/
inductive Invokes (machine : Machine) (host : Host) (name : String) (id : NativeId)
    (function : NativeFunction) : Prop where
  | passed {after : Context}
      (next_eq : machine.next host =
        (.ok (.callNative name id function machine.context.arguments), after)) :
      Invokes machine host name id function
  | refused {kind : Kind} {after : Context}
      (next_eq : machine.next host = (.error (.typeMismatch ⟨.list, kind⟩), after)) :
      Invokes machine host name id function

variable {host : Host} {machine : Machine} {name : String} {id : NativeId}
  {function : NativeFunction}

theorem CallsByName.invokes (calls : machine.CallsByName name)
    (found : machine.shared.registry.get? name = some (.native id))
    (registered : host.native? id = some function) : machine.Invokes host name id function := by
  rcases calls with @⟨instruction, current, opcode_eq, evaluated⟩
  have ends := Instruction.call_ends_of_native machine.current.depth evaluated found registered
  have next_eq : machine.next host = (Instruction.call host machine.current.depth
      (instruction.operand 1)).run machine.context := by
    simp only [next, current]
    rw [Instruction.perform, opcode_eq]
  rcases run : (Instruction.call host machine.current.depth (instruction.operand 1)).run
    machine.context with ⟨cause | flow, after⟩ <;> rw [run] at next_eq
  · obtain ⟨kind, rfl⟩ := ends.of_run_error run
    exact .refused next_eq
  · obtain rfl := ends.of_run_ok run
    exact .passed next_eq

end Machine

namespace Engine

variable {engine : Engine} {entry : Entry} {arguments : Option (List Value)} {fresh : Bool}
  {machine : Machine} {name : String} {id : NativeId}

/-! ## Executions -/

/-- At the beginning of an execution a function of the host is not too late for its name. -/
def Admits (engine : Engine) (fresh : Bool) (name : String) (id : NativeId) : Prop :=
  fresh = false → engine.shared.registry.Admits name id

theorem get?_hostFunction_of_link {result : Except ExecutionError Unit} {linked : Context}
    (links : engine.program.link engine.host arguments fresh engine.shared = (result, linked))
    (admits : engine.Admits fresh name id)
    (listed : engine.host.functions.lookup name = some id) :
    linked.shared.registry.get? name = some (.native id) := by
  apply (Program.links_of_link links).get?_hostFunction _ listed
  cases fresh with
  | false => exact admits rfl
  | true => exact fun _ found => by cases found

/-- The function of the host has its name throughout the execution, in all programs. -/
theorem Reaches.get?_hostFunction (reaches : engine.Reaches entry arguments fresh machine)
    (admits : engine.Admits fresh name id)
    (listed : engine.host.functions.lookup name = some id) :
    machine.shared.registry.get? name = some (.native id) := by
  obtain ⟨initial, steps, starts, runs⟩ := reaches
  obtain ⟨linked, offset, links, -, rfl⟩ := exists_linked_of_start starts
  have registered := get?_hostFunction_of_link links admits listed
  exact (Machine.addedTo_of_run runs).registry name _ registered

/-- A name that an execution finds registered goes on to stand for what it stands for. -/
theorem Reaches.callee?_of_get? {linked : Linked} {callee : Callee} {flow : Flow}
    {context : Context} (reaches : engine.Reaches entry arguments false machine)
    (found : engine.shared.registry.get? name = some linked)
    (stands : linked.callee? engine.host engine.shared.libraries = some callee)
    (calls : machine.CallsByName name) (next_eq : machine.next engine.host = (.ok flow, context)) :
    flow.callee? = some callee := by
  obtain ⟨initial, steps, starts, runs⟩ := reaches
  have added :=
    ((continuedTo_of_start_running starts).added rfl).trans (Machine.addedTo_of_run runs)
  rcases calls with ⟨current, opcode_eq, evaluated⟩
  obtain ⟨linked', callee', found', stands', flow_eq⟩ :=
    (Moment.Calls.performed current opcode_eq evaluated next_eq).callee?_eq
  obtain rfl := Option.some.inj ((added.registry name linked found).symm.trans found')
  have same := (Linked.callee?_of_addedTo added (.of_natives_eq rfl) stands).symm.trans stands'
  rw [flow_eq, same]

/-! ## Histories -/

theorem admits_act (action : Action) (admits : engine.shared.registry.Admits name id)
    (listed : engine.host.functions.lookup name = some id) :
    (engine.act action).shared.registry.Admits name id := by
  cases action with
  | execute steps entry arguments fresh =>
      rcases engine.exists_linked_of_execute steps entry arguments fresh with
        same | ⟨result, linked, links, added⟩
      · rw [act, same]
        exact admits
      · have registered := get?_hostFunction_of_link links (fun _ => admits) listed
        exact Registry.admits_of_get? (added.registry name _ registered)
  | lookupVariable other =>
      simp only [act, lookupVariable]
      split <;> exact admits
  | setVariable other value =>
      simp only [act, setVariable]
      split <;> exact admits
  | registerFunction | registerModule | setSearchPaths | setFiles | setMaxDepth => exact admits

theorem lookup_functions_act (action : Action)
    (listed : engine.host.functions.lookup name = some id) :
    (engine.act action).host.functions.lookup name = some id := by
  rw [(engine.givenBy_act action).functions, List.lookup_append, listed, Option.some_or]

/-- No action but one gives a function to a name. -/
theorem lookup_functions_act_eq_none {action : Action}
    (missing : engine.host.functions.lookup name = none)
    (different : ∀ function, action ≠ .registerFunction name function) :
    (engine.act action).host.functions.lookup name = none := by
  rw [(engine.givenBy_act action).functions, List.lookup_append, missing, Option.none_or]
  cases action with
  | registerFunction other function =>
      have name_ne : name ≠ other := by
        rintro rfl
        exact different function rfl
      rw [Action.registered, List.lookup_cons, beq_eq_false_iff_ne.mpr name_ne]
      rfl
  | _ => rfl

/-- That action gives its own function, if the name has none. -/
theorem lookup_functions_registerFunction (function : NativeFunction)
    (missing : engine.host.functions.lookup name = none) :
    (engine.act (.registerFunction name function)).host.functions.lookup name =
      some (engine.host.registerFunction name function).1 := by
  rw [(engine.givenBy_act _).functions, List.lookup_append, missing, Option.none_or]
  rw [Action.registered, List.lookup_cons, beq_self_eq_true]
  rfl

theorem lookup_functions_afterActions_eq_none {actions : List Action}
    (missing : engine.host.functions.lookup name = none)
    (different : ∀ function, .registerFunction name function ∉ actions) :
    (engine.afterActions actions).host.functions.lookup name = none := by
  refine List.foldlRecOn (motive := fun engine => engine.host.functions.lookup name = none)
    actions act missing fun engine missing action mem => ?_
  apply lookup_functions_act_eq_none missing
  rintro function rfl
  exact different function mem

theorem lookup_functions_afterActions (actions : List Action)
    (listed : engine.host.functions.lookup name = some id) :
    (engine.afterActions actions).host.functions.lookup name = some id := by
  rw [functions_afterActions, List.lookup_append, listed, Option.some_or]

theorem native?_afterActions {function : NativeFunction} (actions : List Action)
    (registered : engine.host.native? id = some function) :
    (engine.afterActions actions).host.native? id = some function :=
  List.foldlRecOn (motive := fun engine => engine.host.native? id = some function) actions act
    registered fun engine registered action _ =>
      Moment.keepsNatives_act engine action id function registered

/-- A function that comes in time for its name keeps the name, whatever is done later. -/
theorem admits_afterActions (actions : List Action) (admits : engine.shared.registry.Admits name id)
    (listed : engine.host.functions.lookup name = some id) :
    (engine.afterActions actions).shared.registry.Admits name id := by
  refine (List.foldlRecOn (motive := fun engine => engine.shared.registry.Admits name id ∧
    engine.host.functions.lookup name = some id) actions act ⟨admits, listed⟩ ?_).1
  rintro engine ⟨admits, listed⟩ action -
  exact ⟨engine.admits_act action admits listed, engine.lookup_functions_act action listed⟩

theorem reachable_afterActions (reachable : engine.Reachable) (actions : List Action) :
    (engine.afterActions actions).Reachable :=
  List.foldlRecOn actions act reachable fun _ reachable action _ => .act reachable action

/-- What a name is registered for is there to be called. -/
theorem Closed.exists_callee (closed : engine.Closed) {linked : Linked}
    (found : engine.shared.registry.get? name = some linked) :
    ∃ callee, linked.callee? engine.host engine.shared.libraries = some callee := by
  cases closed.shared _ (Registry.mem_of_get? found) with
  | native registered => exact ⟨_, Option.map_eq_some_iff.mpr ⟨_, registered, rfl⟩⟩
  | library exported =>
      obtain ⟨library, -, loaded, -⟩ := exported
      exact ⟨_, Option.map_eq_some_iff.mpr ⟨library, loaded, rfl⟩⟩

/-- The first function that a host registers by a name is what the name stands for in every call of
an execution, unless the execution goes on with a registry in which the name is taken; and it is not
taken later, if it was not when the function was registered.  A name that is taken stands for what
it is registered for. -/
theorem host_function_precedence (program : Program) (reader : ProgramReader)
    (before after : List Action) (name : String) (function : NativeFunction)
    (first : ∀ other, .registerFunction name other ∉ before) :
    let earlier := (ofProgram program reader).afterActions before
    let id := (earlier.host.registerFunction name function).1
    let engine :=
      (ofProgram program reader).afterActions (before ++ .registerFunction name function :: after)
    engine.host.native? id = some function ∧
    (earlier.shared.registry.Admits name id → engine.shared.registry.Admits name id) ∧
    ∀ entry arguments fresh machine, engine.Reaches entry arguments fresh machine →
      machine.CallsByName name →
      (engine.Admits fresh name id → machine.Invokes engine.host name id function) ∧
      (¬engine.Admits fresh name id →
        ∃ linked callee, engine.shared.registry.get? name = some linked ∧ linked ≠ .native id ∧
          linked.callee? engine.host engine.shared.libraries = some callee ∧
          ∀ flow context, machine.next engine.host = (.ok flow, context) →
            flow.callee? = some callee) := by
  intro earlier id engine
  have engine_eq : engine = (earlier.act (.registerFunction name function)).afterActions after :=
    List.foldl_append
  have missing : earlier.host.functions.lookup name = none :=
    lookup_functions_afterActions_eq_none rfl first
  have listed := lookup_functions_registerFunction function missing
  have given : (earlier.act (.registerFunction name function)).host.native? id =
      some function := Array.getElem?_push_size
  have closed : engine.Closed := (reachable_afterActions (.ofProgram program reader) _).closed
  have registered : engine.host.native? id = some function := by
    rw [engine_eq]
    exact native?_afterActions after given
  have listed' : engine.host.functions.lookup name = some id := by
    rw [engine_eq]
    exact lookup_functions_afterActions after listed
  refine ⟨registered, ?_, ?_⟩
  · intro admits
    rw [engine_eq]
    exact admits_afterActions after admits listed
  · intro entry arguments fresh machine reaches calls
    constructor
    · intro admits
      exact calls.invokes (reaches.get?_hostFunction admits listed') registered
    · intro tooLate
      obtain ⟨rfl, refused⟩ := Classical.not_imp.mp tooLate
      obtain ⟨linked, found, different⟩ := Registry.exists_of_not_admits refused
      obtain ⟨callee, stands⟩ := closed.exists_callee found
      exact ⟨linked, callee, found, different, stands, fun flow context next_eq =>
        reaches.callee?_of_get? found stands calls next_eq⟩

/-- A host that provides a module with a function. -/
def moduleHistory : List Action := [.registerModule "module" [("function", answersNone)]]

/-- A function that is registered before the program has called the one of the module. -/
theorem host_function_precedence_moduleHistory :
    let engine := (ofProgram moduleProgram).afterActions
      (moduleHistory ++ .registerFunction "function" answersZero :: [.execute 3 mainEntry none true])
    ∃ machine, engine.Reaches mainEntry none false machine ∧ machine.CallsByName "function" ∧
      machine.Invokes engine.host "function" ⟨1⟩ answersZero := by
  intro engine
  have states : ∃ machine, engine.Reaches mainEntry none false machine ∧
      machine.CallsByName "function" :=
    ⟨_, ⟨_, 1, rfl, rfl⟩, .intro rfl rfl rfl⟩
  have first : ∀ other, Action.registerFunction "function" other ∉ moduleHistory := by
    simp [moduleHistory]
  obtain ⟨machine, reaches, calls⟩ := states
  obtain ⟨-, admits, resolves⟩ := host_function_precedence moduleProgram .refusing moduleHistory
    [.execute 3 mainEntry none true] "function" answersZero first
  refine ⟨machine, reaches, calls, (resolves _ _ _ machine reaches calls).1 fun _ => admits ?_⟩
  exact fun _ found => by cases found

/-- The program has called the function of the module. -/
def calledHistory : List Action := moduleHistory ++ [.execute 3 mainEntry none true]

/-- The engine with a function that is registered after the call. -/
def lateEngine : Engine :=
  (ofProgram moduleProgram).afterActions
    (calledHistory ++ [.registerFunction "function" answersZero])

/-- A function that is registered after the call comes too late, if the next execution does not
forget. -/
theorem not_host_function_precedence :
    ¬∀ (program : Program) (reader : ProgramReader) (before after : List Action) (name : String)
      (function : NativeFunction), (∀ other, .registerFunction name other ∉ before) →
      let earlier := (ofProgram program reader).afterActions before
      let id := (earlier.host.registerFunction name function).1
      let engine :=
        (ofProgram program reader).afterActions (before ++ .registerFunction name function :: after)
      ∀ entry arguments fresh machine, engine.Reaches entry arguments fresh machine →
        machine.CallsByName name → machine.Invokes engine.host name id function := by
  intro precedes
  have first : ∀ other, Action.registerFunction "function" other ∉ calledHistory := by
    simp [calledHistory, moduleHistory]
  have states : ∃ machine, lateEngine.Reaches mainEntry none false machine ∧
      machine.CallsByName "function" ∧
      (machine.next lateEngine.host).1 = .ok (.callNative "function" ⟨0⟩ answersNone []) :=
    ⟨_, ⟨_, 1, rfl, rfl⟩, .intro rfl rfl rfl, rfl⟩
  obtain ⟨machine, reaches, calls, flow_eq⟩ := states
  have invokes : machine.Invokes lateEngine.host "function" ⟨1⟩ answersZero :=
    precedes moduleProgram .refusing calledHistory [] "function" answersZero first _ _ _ machine
      reaches calls
  cases invokes with
  | passed next_eq | refused next_eq =>
      rw [next_eq] at flow_eq
      cases flow_eq

end Engine

end ScriptMachine
