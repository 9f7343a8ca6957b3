import ScriptMachine.Engine
import ScriptMachine.Proofs.Link.Stages
import ScriptMachine.Proofs.Machine.Runs

/-!
# Closure of the registry

The registry, the libraries and the functions of the host are separate tables, and a call by
name goes through all three.  In every state that a host can bring an engine into, whatever it
registers and executes and wherever executions fail, each registered name stands for a
function that is there: nothing is taken from the host's functions, libraries are only
added or forgotten together with the registry, and linking registers only what it has at
hand.

Conversely every link that succeeds leaves all exports registered.  Instructions do not
register or load anything, and a link that fails ends the execution, so that this holds
whenever an instruction is performed.
-/

namespace ScriptMachine

/-! ## Functions of the host -/

/-- The function of every identity that the host has given out for imports is there. -/
structure Host.Valid (host : Host) : Prop where
  functions : ∀ name id, (name, id) ∈ host.functions → id.index < host.natives.size
  modules : ∀ moduleName entries, (moduleName, entries) ∈ host.modules →
    ∀ name id, (name, id) ∈ entries → id.index < host.natives.size

namespace Host

variable {host : Host}

theorem native?_of_lt {id : NativeId} (registered : id.index < host.natives.size) :
    ∃ function, host.native? id = some function :=
  ⟨_, Array.getElem?_eq_getElem registered⟩

theorem Valid.native? (valid : host.Valid) {name : String} {id : NativeId}
    (provides : host.Provides name id) : ∃ function, host.native? id = some function := by
  apply native?_of_lt
  rcases provides with listed | ⟨moduleName, entries, found, listed⟩
  · exact valid.functions name id listed
  · obtain ⟨before, after, modules_eq, _⟩ := List.lookup_eq_some_iff.mp found
    exact valid.modules moduleName entries (by simp [modules_eq]) name id listed

/-- The second host has the functions of the first under the same identities. -/
def KeepsNatives (before after : Host) : Prop :=
  ∀ id function, before.native? id = some function → after.native? id = some function

theorem KeepsNatives.of_natives_eq {before after : Host}
    (natives_eq : after.natives = before.natives) : before.KeepsNatives after := by
  intro id function found
  rw [native?, natives_eq]
  exact found

theorem KeepsNatives.registered {before after : Host} (keeps : before.KeepsNatives after)
    {id : NativeId} (registered : id.index < before.natives.size) :
    id.index < after.natives.size := by
  obtain ⟨function, found⟩ := native?_of_lt registered
  exact (Array.getElem?_eq_some_iff.mp (keeps id function found)).1

theorem keepsNatives_addNative (host : Host) (function : NativeFunction) :
    host.KeepsNatives (host.addNative function).2 := by
  intro id other found
  obtain ⟨inside, _⟩ := Array.getElem?_eq_some_iff.mp found
  rw [native?, addNative, Array.getElem?_push_lt inside, ← Array.getElem?_eq_getElem inside]
  exact found

theorem valid_ofReader (reader : ProgramReader) : (ofReader reader).Valid where
  functions _ _ listed := by cases listed
  modules _ _ listed := by cases listed

theorem valid_registerFunction (valid : host.Valid) (name : String) (function : NativeFunction) :
    (host.registerFunction name function).2.Valid := by
  have keeps := host.keepsNatives_addNative function
  constructor
  · intro other id listed
    simp only [registerFunction, List.mem_append, List.mem_singleton, Prod.mk.injEq] at listed ⊢
    rcases listed with earlier | ⟨_, rfl⟩
    · exact keeps.registered (valid.functions other id earlier)
    · simp [addNative]
  · intro moduleName entries listed other id member
    exact keeps.registered (valid.modules moduleName entries listed other id member)

/-- Functions that get identities are there, and nothing else changes. -/
theorem addNatives_spec (host : Host) (functions : List (String × NativeFunction)) :
    host.KeepsNatives (host.addNatives functions).2 ∧
      (host.addNatives functions).2.functions = host.functions ∧
      (host.addNatives functions).2.modules = host.modules ∧
      ∀ name id, (name, id) ∈ (host.addNatives functions).1 →
        id.index < (host.addNatives functions).2.natives.size := by
  induction functions generalizing host with
  | nil => exact ⟨fun _ _ found => found, rfl, rfl, by simp [addNatives]⟩
  | cons first rest ih =>
      obtain ⟨keeps, functions_eq, modules_eq, registered⟩ := ih (host.addNative first.2).2
      constructor
      · intro id function found
        exact keeps id function (host.keepsNatives_addNative first.2 id function found)
      · apply And.intro functions_eq
        apply And.intro modules_eq
        intro name id listed
        rcases List.mem_cons.mp listed with same | later
        · obtain ⟨_, rfl⟩ := Prod.mk.inj same
          apply keeps.registered
          simp [addNative]
        · exact registered name id later

/-- A module that replaces another takes no function from the host. -/
theorem keepsNatives_registerModule (host : Host) (name : String)
    (functions : List (String × NativeFunction)) :
    host.KeepsNatives (host.registerModule name functions) :=
  (host.addNatives_spec functions).1

theorem valid_registerModule (valid : host.Valid) (name : String)
    (functions : List (String × NativeFunction)) : (host.registerModule name functions).Valid := by
  obtain ⟨keeps, functions_eq, modules_eq, registered⟩ := host.addNatives_spec functions
  constructor
  · intro other id listed
    simp only [registerModule, functions_eq] at listed ⊢
    exact keeps.registered (valid.functions other id listed)
  · intro moduleName entries listed other id member
    simp only [registerModule, modules_eq] at listed ⊢
    rcases List.mem_cons.mp listed with same | earlier
    · obtain ⟨_, rfl⟩ := Prod.mk.inj same
      exact registered other id member
    · have earlier := (List.mem_filter.mp earlier).1
      exact keeps.registered (valid.modules moduleName entries earlier other id member)

end Host

/-! ## The registry -/

/-- What a name stands for is there: a function of the host, or a library that exports a
function by this name. -/
inductive Linked.Stands (host : Host) (libraries : Libraries) (name : String) : Linked → Prop where
  | native {id : NativeId} {function : NativeFunction}
      (registered : host.native? id = some function) : Stands host libraries name (.native id)
  | library {reference : FunctionReference} (exported : libraries.Exports name reference) :
      Stands host libraries name (.library reference)

/-- All registered names stand for something. -/
def SharedState.Closed (host : Host) (shared : SharedState) : Prop :=
  ∀ entry ∈ shared.registry.entries, entry.2.Stands host shared.libraries entry.1

variable {host : Host}

theorem Linked.Stands.mono {before after : Host} {libraries : Libraries} {name : String}
    {linked : Linked} (stands : linked.Stands before libraries name)
    (keeps : before.KeepsNatives after) : linked.Stands after libraries name := by
  cases stands with
  | native registered => exact .native (keeps _ _ registered)
  | library exported => exact .library exported

theorem Linked.Stands.loaded {before after : Libraries} {name : String} {linked : Linked}
    (stands : linked.Stands host before name) (loaded : before.LoadedTo host after) :
    linked.Stands host after name := by
  cases stands with
  | native registered => exact .native registered
  | library exported => exact .library (loaded.exports exported)

theorem Linked.Available.stands {libraries : Libraries} {name : String} {linked : Linked}
    (available : linked.Available host libraries name) (valid : host.Valid) :
    linked.Stands host libraries name := by
  cases available with
  | native provides =>
      obtain ⟨function, registered⟩ := valid.native? provides
      exact .native registered
  | library exported => exact .library exported

namespace SharedState

variable {before after shared : SharedState}

/-- Imports keep the registry closed. -/
theorem Closed.of_importedTo (closed : before.Closed host) (valid : host.Valid)
    (imported : before.ImportedTo host after) : after.Closed host := by
  intro entry member
  rcases imported.registry entry member with earlier | available
  · exact (closed entry earlier).loaded imported.libraries
  · exact available.stands valid

theorem Closed.congr (closed : before.Closed host) (registry_eq : after.registry = before.registry)
    (libraries_eq : after.libraries = before.libraries) : after.Closed host := by
  intro entry member
  rw [registry_eq] at member
  rw [libraries_eq]
  exact closed entry member

theorem Covered.congr (covered : before.Covered) (registry_eq : after.registry = before.registry)
    (libraries_eq : after.libraries = before.libraries) : after.Covered := by
  intro name reference exported
  rw [libraries_eq] at exported
  rw [registry_eq]
  exact covered name reference exported

theorem closed_reset (shared : SharedState) : shared.reset.Closed host := by
  intro entry member
  cases member

end SharedState

/-- Linking keeps the registry closed, also when it fails, and covers all exports when it
succeeds. -/
theorem Program.Links.closed {program : Program} {arguments : Option (List Value)}
    {start : SharedState} {result : Except ExecutionError Unit} {linked : Context}
    (links : program.Links host arguments start result linked) (valid : host.Valid)
    (closed : start.Closed host) :
    linked.shared.Closed host ∧ (result = .ok () → linked.shared.Covered) := by
  obtain ⟨imported, imports, registry_eq, libraries_eq, covered⟩ := links.importedTo
  constructor
  · exact (closed.of_importedTo valid imports).congr registry_eq libraries_eq
  · intro succeeds
    exact (covered succeeds).congr registry_eq libraries_eq

namespace Machine

variable {machine next : Machine}

theorem Performs.closed {flow : Flow} {context : Context}
    (performs : machine.Performs host flow context) (closed : machine.shared.Closed host) :
    context.shared.Closed host :=
  closed.congr performs.registry_eq performs.libraries_eq

/-- Only a library function that is entered changes what is registered or loaded. -/
theorem closed_of_passes (valid : host.Valid) (closed : machine.shared.Closed host)
    (covered : machine.shared.Covered) (passes : machine.Passes host next) :
    next.shared.Closed host ∧ next.shared.Covered := by
  have same {shared : SharedState} (registry_eq : shared.registry = machine.shared.registry)
      (libraries_eq : shared.libraries = machine.shared.libraries) :
      shared.Closed host ∧ shared.Covered :=
    ⟨closed.congr registry_eq libraries_eq, covered.congr registry_eq libraries_eq⟩
  cases passes with
  | onward performs | jump performs | enterLabel performs =>
      exact same performs.registry_eq performs.libraries_eq
  | enterLibrary performs links entry =>
      have linked := (Program.links_of_link links).closed valid (performs.closed closed)
      exact ⟨linked.1, linked.2 rfl⟩
  | invoke invokes invoked resumes =>
      have performs := performs_of_next invokes
      exact same (resumes.registry_eq.trans performs.registry_eq)
        (resumes.libraries_eq.trans performs.libraries_eq)
  | leaveLabel performs returns_eq resumes | leaveLibrary performs returns_eq callers_eq resumes =>
      exact same (resumes.registry_eq.trans performs.registry_eq)
        (resumes.libraries_eq.trans performs.libraries_eq)

theorem Discards.closed {outcome : Outcome} (discards : machine.Discards outcome)
    (closed : machine.shared.Closed host) : outcome.shared.Closed host := by
  cases discards with
  | fault growth ofOperand => exact closed.congr growth.registry_eq growth.libraries_eq

theorem closed_of_closes {outcome : Outcome} (valid : host.Valid)
    (closed : machine.shared.Closed host) (closes : machine.Closes host outcome) :
    outcome.shared.Closed host := by
  cases closes with
  | refuse current growth => exact closed.congr growth.registry_eq growth.libraries_eq
  | notLinked performs links | notEntered performs links =>
      exact ((Program.links_of_link links).closed valid (performs.closed closed)).1
  | invoke invokes => exact (performs_of_next invokes).closed closed
  | discardInvoked invokes invoked discards =>
      exact discards.closed ((performs_of_next invokes).closed closed)
  | discardFromLabel performs returns_eq discards
  | discardFromLibrary performs returns_eq callers_eq discards =>
      exact discards.closed (performs.closed closed)
  | finish performs => exact performs.closed closed

/-- A call by name finds what the name is registered for. -/
theorem ne_unknown_of_closed {instruction : Instruction} {name : String} {cause : Fault}
    {context : Context} (closed : machine.shared.Closed host)
    (current : machine.current.instruction? = some instruction)
    (evaluated : (instruction.operand 1).evaluate machine.context = .ok (.text name))
    (next_eq : machine.next host = (.error cause, context)) :
    (∀ id, cause ≠ .unknownNativeFunction id) ∧ ∀ index, cause ≠ .unknownLibrary index := by
  have stands {linked : Linked} (named : (instruction.operand 1).Names machine.context linked) :
      linked.Stands host machine.shared.libraries name := by
    cases named with
    | text evaluated' registered =>
        rw [evaluated] at evaluated'
        cases evaluated'
        exact closed _ (Registry.mem_of_get? registered)
    | native evaluated' | function evaluated' =>
        rw [evaluated] at evaluated'
        cases evaluated'
  obtain ⟨other, found, _, refuses⟩ := refuses_of_next next_eq
  rw [current] at found
  obtain rfl := Option.some.inj found
  cases refuses with
  | unknownNativeFunction opcode_eq named unregistered =>
      cases stands named with
      | native registered =>
          have impossible := unregistered.symm.trans registered
          cases impossible
  | unknownLibrary opcode_eq named unloaded =>
      cases stands named with
      | library exported =>
          obtain ⟨library, _, loaded, _⟩ := exported
          have impossible := unloaded.symm.trans loaded
          cases impossible
  | operand ofOperand =>
      constructor <;>
        · rintro index rfl
          exact ofOperand.elim
  | unknownFunction | labelTooDeep | libraryTooDeep => simp

end Machine

/-! ## Engines -/

namespace Engine

/-- What a host does with an engine. -/
inductive Action where
  | registerFunction (name : String) (function : NativeFunction)
  | registerModule (name : String) (functions : List (String × NativeFunction))
  | setSearchPaths (paths : List Path)
  | setFiles (files : Files)
  | setMaxDepth (depth : Nat)
  | execute (steps : Nat) (entry : Entry) (arguments : Option (List Value)) (fresh : Bool)
  | lookupVariable (name : String)
  | setVariable (name : String) (value : Value)

/-- The engine after an action. -/
def act (engine : Engine) : Action → Engine
  | .registerFunction name function =>
      { engine with host := (engine.host.registerFunction name function).2 }
  | .registerModule name functions =>
      { engine with host := engine.host.registerModule name functions }
  | .setSearchPaths paths => { engine with host.searchPaths := paths }
  | .setFiles files => { engine with host.files := files }
  | .setMaxDepth depth => { engine with host.maxDepth := depth }
  | .execute steps entry arguments fresh => (engine.execute steps entry arguments fresh).2
  | .lookupVariable name => (engine.lookupVariable name).2
  | .setVariable name value => (engine.setVariable name value).2

/-- The engines that hosts can come by. -/
inductive Reachable : Engine → Prop where
  | ofProgram (program : Program) (reader : ProgramReader) : Reachable (ofProgram program reader)
  | act {engine : Engine} (reachable : Reachable engine) (action : Action) :
      Reachable (engine.act action)

/-- The host gives out only functions that are there, and so does the registry. -/
structure Closed (engine : Engine) : Prop where
  host : engine.host.Valid
  shared : engine.shared.Closed engine.host

variable {engine : Engine} {entry : Entry} {arguments : Option (List Value)} {fresh : Bool}

/-- What linking leaves when an execution begins or fails to. -/
theorem Closed.of_link {result : Except ExecutionError Unit} {linked : Context}
    (closed : engine.Closed)
    (links : engine.program.link engine.host arguments fresh engine.shared = (result, linked)) :
    linked.shared.Closed engine.host ∧ (result = .ok () → linked.shared.Covered) := by
  apply (Program.links_of_link links).closed closed.host
  split
  · exact engine.shared.closed_reset
  · exact closed.shared

/-- An execution begins with a closed registry that covers all exports. -/
theorem Closed.of_start_running {initial : Machine} (closed : engine.Closed)
    (starts : engine.start entry arguments fresh = .running initial) :
    initial.shared.Closed engine.host ∧ initial.shared.Covered := by
  unfold start at starts
  split at starts
  · cases starts
  · rename_i linked links
    have linkedClosed := closed.of_link links
    split at starts <;> cases starts
    exact ⟨linkedClosed.1, linkedClosed.2 rfl⟩

theorem Closed.of_start_finished {outcome : Outcome} (closed : engine.Closed)
    (starts : engine.start entry arguments fresh = .finished outcome) :
    outcome.shared.Closed engine.host := by
  unfold start at starts
  split at starts
  · rename_i links
    cases starts
    exact (closed.of_link links).1
  · rename_i linked links
    split at starts <;> cases starts
    exact (closed.of_link links).1

/-- As long as an execution runs, its registry is closed and covers all exports. -/
theorem Closed.of_run {initial machine : Machine} {steps : Nat} (closed : engine.Closed)
    (starts : engine.start entry arguments fresh = .running initial)
    (runs : initial.run engine.host steps = .running machine) :
    machine.shared.Closed engine.host ∧ machine.shared.Covered := by
  apply Machine.holds_of_run _ (closed.of_start_running starts) runs
  rintro before after ⟨closedBefore, covered⟩ stepped
  exact Machine.closed_of_passes closed.host closedBefore covered (Machine.passes_of_step stepped)

/-- However an execution ends, the registry that it leaves is closed. -/
theorem Closed.of_finished {initial : Machine} {steps : Nat} {outcome : Outcome}
    (closed : engine.Closed) (starts : engine.start entry arguments fresh = .running initial)
    (runs : initial.run engine.host steps = .finished outcome) :
    outcome.shared.Closed engine.host := by
  obtain ⟨taken, last, reached, ended⟩ := Machine.step_of_run_finished runs
  exact Machine.closed_of_closes closed.host (closed.of_run starts reached).1
    (Machine.closes_of_step ended)

theorem Closed.execute (closed : engine.Closed) (steps : Nat) (entry : Entry)
    (arguments : Option (List Value)) (fresh : Bool) :
    (engine.execute steps entry arguments fresh).2.Closed := by
  simp only [Engine.execute, executeObserved]
  cases starts : engine.start entry arguments fresh with
  | finished outcome => exact ⟨closed.host, closed.of_start_finished starts⟩
  | running initial =>
      simp only [Machine.snd_runObserved]
      cases runs : initial.run engine.host steps with
      | running machine => exact closed
      | finished outcome => exact ⟨closed.host, closed.of_finished starts runs⟩

/-- Another host with the same functions under the same identities. -/
theorem Closed.withHost (closed : engine.Closed) {host : Host} (valid : host.Valid)
    (keeps : engine.host.KeepsNatives host) : Closed { engine with host := host } where
  host := valid
  shared entry member := (closed.shared entry member).mono keeps

theorem Closed.act (closed : engine.Closed) (action : Action) : (engine.act action).Closed := by
  cases action with
  | registerFunction name function =>
      exact closed.withHost (Host.valid_registerFunction closed.host name function)
        (engine.host.keepsNatives_addNative function)
  | registerModule name functions =>
      exact closed.withHost (Host.valid_registerModule closed.host name functions)
        (engine.host.keepsNatives_registerModule name functions)
  | setSearchPaths | setFiles | setMaxDepth =>
      exact closed.withHost ⟨closed.host.functions, closed.host.modules⟩ (.of_natives_eq rfl)
  | execute steps entry arguments fresh => exact closed.execute steps entry arguments fresh
  | lookupVariable name =>
      simp only [Engine.act, Engine.lookupVariable]
      split <;> exact ⟨closed.host, closed.shared⟩
  | setVariable name value =>
      simp only [Engine.act, Engine.setVariable]
      split <;> exact ⟨closed.host, closed.shared⟩

theorem Reachable.closed (reachable : engine.Reachable) : engine.Closed := by
  induction reachable with
  | ofProgram program reader =>
      constructor
      · exact Host.valid_ofReader reader
      · intro entry member
        cases member
  | act reachable action ih => exact ih.act action

/-- After any actions of the host, each registered name stands for a function of the host or for
one that a loaded library exports by that name.  When an instruction is performed in a further
execution, this is so as well, all exports of loaded libraries are registered, and a call by
name that faults does so for neither a library nor a host function that is unknown. -/
theorem registry_closure (reachable : engine.Reachable) :
    engine.shared.Closed engine.host ∧
    ∀ entry arguments fresh initial, engine.start entry arguments fresh = .running initial →
      ∀ steps machine, initial.run engine.host steps = .running machine →
        machine.shared.Closed engine.host ∧ machine.shared.Covered ∧
        ∀ instruction name, machine.current.instruction? = some instruction →
          instruction.opcode = .call →
          (instruction.operand 1).evaluate machine.context = .ok (.text name) →
          ∀ cause context, machine.next engine.host = (.error cause, context) →
            (∀ id, cause ≠ .unknownNativeFunction id) ∧ ∀ index, cause ≠ .unknownLibrary index := by
  have closed := reachable.closed
  constructor
  · exact closed.shared
  · intro entry arguments fresh initial starts steps machine runs
    obtain ⟨closedMachine, covered⟩ := closed.of_run starts runs
    apply And.intro closedMachine
    apply And.intro covered
    intro instruction name current _ evaluated cause context next_eq
    exact Machine.ne_unknown_of_closed closedMachine current evaluated next_eq

/-- A program that imports a module and calls its function. -/
def moduleProgram : Program where
  imports := [⟨.nativeModule, "module"⟩]
  constants := []
  vars := [⟨0, "result", .exported⟩]
  functions := [⟨0, "main", .exported⟩]
  instructions := #[
    .make .label [.label 0],
    .make .call [.variable 0, .literal (.text "function")]]

/-- The engine after an execution, when the module has been replaced by an empty one. -/
def replacedModuleEngine : Engine :=
  (((ofProgram moduleProgram).act
    (.registerModule "module" [("function", fun _ memory => (.ok .none, memory))])).act
    (.execute 3 mainEntry none true)).act
    (.registerModule "module" [])

theorem registry_closure_replacedModuleEngine :
    replacedModuleEngine.Reachable ∧ replacedModuleEngine.host.module? "module" = some [] ∧
      ("function", .native ⟨0⟩) ∈ replacedModuleEngine.shared.registry.entries ∧
      ∃ function, replacedModuleEngine.host.native? ⟨0⟩ = some function := by
  have reachable : replacedModuleEngine.Reachable :=
    .act (.act (.act (.ofProgram moduleProgram _) _) _) _
  have entries_eq :
      replacedModuleEngine.shared.registry.entries = [("function", .native ⟨0⟩)] := rfl
  have listed : ("function", .native ⟨0⟩) ∈ replacedModuleEngine.shared.registry.entries := by
    rw [entries_eq]
    exact List.mem_singleton.mpr rfl
  cases (registry_closure reachable).1 _ listed with
  | native registered => exact ⟨reachable, rfl, listed, _, registered⟩

end Engine

end ScriptMachine
