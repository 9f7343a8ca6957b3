import ScriptMachine.Datum.Form
import ScriptMachine.Program.Schema
import ScriptMachine.Proofs.Link.Precedence
import ScriptMachine.Proofs.Machine.Executions
import ScriptMachine.Proofs.Registry.Closure

/-!
# Precedence of linked functions

Which function a name stands for when a program has been linked afresh.  The answer is stated over
what a host has done with the engine before, as a list of actions: the functions that it has
registered come first, in the order of their registration, then those of the imported modules, as
they were registered last, and then those that the imported libraries export.  Each path counts
once, by its first import.  The first occurrence of a name in this order is what the name stands
for.

The identity of a function is its position among all functions that the host has given to the
engine.
-/

namespace ScriptMachine

/-! ## What a host is given -/

/-- Names with the identities that their functions get after a number of others. -/
def identified (count : Nat) (functions : List (String × NativeFunction)) :
    List (String × NativeId) :=
  (functions.zipIdx count).map fun (entry, index) => (entry.1, ⟨index⟩)

namespace Engine

namespace Action

/-- The functions that the host gives to an engine, with their names. -/
def given : Action → List (String × NativeFunction)
  | .registerFunction name function => [(name, function)]
  | .registerModule _ functions => functions
  | _ => []

/-- The function that is registered by an action after a number of functions has been given. -/
def registered (count : Nat) : Action → List (String × NativeId)
  | .registerFunction name _ => [(name, ⟨count⟩)]
  | _ => []

/-- The functions of a module if an action registers it after a number of functions has been
given. -/
def module? (name : String) (count : Nat) : Action → Option (List (String × NativeId))
  | .registerModule other functions =>
      if other = name then some (identified count functions) else none
  | _ => none

end Action

/-- Actions with the number of functions that have been given before each. -/
def counted (count : Nat) : List Action → List (Nat × Action)
  | [] => []
  | action :: rest => (count, action) :: counted (count + action.given.length) rest

/-- The functions that have been registered by name, in order. -/
def registeredFunctions (history : List Action) : List (String × NativeId) :=
  (counted 0 history).flatMap fun (count, action) => action.registered count

/-- The functions of a module that has been registered, as it was last. -/
def registeredModule? (history : List Action) (name : String) :
    Option (List (String × NativeId)) :=
  (counted 0 history).reverse.findSome? fun (count, action) => action.module? name count

/-- The engine after actions of the host. -/
def afterActions (engine : Engine) (actions : List Action) : Engine := actions.foldl act engine

end Engine

namespace Host

/-- Functions get their identities in order. -/
theorem addNatives_eq (host : Host) (functions : List (String × NativeFunction)) :
    (host.addNatives functions).1 = identified host.natives.size functions ∧
      (host.addNatives functions).2.natives.toList =
        host.natives.toList ++ functions.map Prod.snd := by
  induction functions generalizing host with
  | nil => exact ⟨rfl, (List.append_nil _).symm⟩
  | cons first rest ih =>
      obtain ⟨entries_eq, natives_eq⟩ := ih (host.addNative first.2).2
      constructor
      · simp only [addNatives, entries_eq]
        simp [identified, addNative, List.zipIdx_cons]
      · simp only [addNatives, natives_eq]
        simp [addNative]

/-- A module stands in place of any module of its name. -/
theorem module?_registerModule (host : Host) (name other : String)
    (functions : List (String × NativeFunction)) :
    (host.registerModule name functions).module? other =
      ((Engine.Action.registerModule name functions).module? other host.natives.size).or
        (host.module? other) := by
  have modules_eq := (host.addNatives_spec functions).2.2.1
  have others : ∀ modules : List (String × List (String × NativeId)), name ≠ other →
      (modules.filter fun entry => entry.1 ≠ name).lookup other = modules.lookup other := by
    intro modules different
    induction modules with
    | nil => rfl
    | cons first rest ih =>
        obtain ⟨key, entries⟩ := first
        by_cases same : key = name
        · have unequal : (other == key) = false := beq_eq_false_iff_ne.mpr (same ▸ different.symm)
          rw [List.filter_cons_of_neg (by simp [same]), List.lookup_cons, unequal, ih]
        · rw [List.filter_cons_of_pos (by simp [same]), List.lookup_cons, List.lookup_cons, ih]
  simp only [registerModule, module?, modules_eq, (host.addNatives_eq functions).1,
    Engine.Action.module?, List.lookup_cons]
  by_cases same : name = other
  · simp [same]
  · have unequal : (other == name) = false := beq_eq_false_iff_ne.mpr (Ne.symm same)
    rw [unequal, if_neg same, Option.none_or]
    exact others host.modules same

end Host

/-! ## What a host has -/

/-- The second host is the first with what an action has given to it. -/
structure Host.GivenBy (action : Engine.Action) (before after : Host) : Prop where
  natives : after.natives.toList = before.natives.toList ++ action.given.map Prod.snd
  functions : after.functions = before.functions ++ action.registered before.natives.size
  modules : ∀ name,
    after.module? name = (action.module? name before.natives.size).or (before.module? name)

namespace Engine

variable {engine : Engine}

theorem givenBy_act (engine : Engine) (action : Action) :
    engine.host.GivenBy action (engine.act action).host := by
  cases action with
  | registerFunction name function => exact ⟨Array.toList_push, rfl, fun _ => rfl⟩
  | registerModule name functions =>
      have functions_eq := (engine.host.addNatives_spec functions).2.1
      exact ⟨(engine.host.addNatives_eq functions).2, functions_eq.trans (List.append_nil _).symm,
        fun other => engine.host.module?_registerModule name other functions⟩
  | setSearchPaths | setFiles | setMaxDepth =>
      exact ⟨(List.append_nil _).symm, (List.append_nil _).symm, fun _ => rfl⟩
  | execute steps entry arguments fresh =>
      rw [act, (engine.execute_keeps steps entry arguments fresh).2]
      exact ⟨(List.append_nil _).symm, (List.append_nil _).symm, fun _ => rfl⟩
  | lookupVariable name =>
      rw [act, (engine.lookupVariable_keeps name).2]
      exact ⟨(List.append_nil _).symm, (List.append_nil _).symm, fun _ => rfl⟩
  | setVariable name value =>
      rw [act, (engine.setVariable_keeps name value).2]
      exact ⟨(List.append_nil _).symm, (List.append_nil _).symm, fun _ => rfl⟩

theorem program_act (engine : Engine) (action : Action) :
    (engine.act action).program = engine.program := by
  cases action with
  | execute steps entry arguments fresh =>
      exact (engine.execute_keeps steps entry arguments fresh).1
  | lookupVariable name => exact (engine.lookupVariable_keeps name).1
  | setVariable name value => exact (engine.setVariable_keeps name value).1
  | _ => rfl

theorem size_natives_act (engine : Engine) (action : Action) :
    (engine.act action).host.natives.size = engine.host.natives.size + action.given.length := by
  have natives_eq := congrArg List.length (engine.givenBy_act action).natives
  rw [List.length_append, List.length_map] at natives_eq
  exact natives_eq

theorem program_afterActions (engine : Engine) (history : List Action) :
    (engine.afterActions history).program = engine.program := by
  induction history generalizing engine with
  | nil => rfl
  | cons action rest ih => exact (ih (engine.act action)).trans (engine.program_act action)

theorem natives_afterActions (engine : Engine) (history : List Action) :
    (engine.afterActions history).host.natives.toList =
      engine.host.natives.toList ++ (history.flatMap Action.given).map Prod.snd := by
  induction history generalizing engine with
  | nil => exact (List.append_nil _).symm
  | cons action rest ih =>
      rw [List.flatMap_cons, List.map_append, ← List.append_assoc]
      rw [← (engine.givenBy_act action).natives]
      exact ih (engine.act action)

theorem functions_afterActions (engine : Engine) (history : List Action) :
    (engine.afterActions history).host.functions = engine.host.functions ++
      (counted engine.host.natives.size history).flatMap
        fun (count, action) => action.registered count := by
  induction history generalizing engine with
  | nil => exact (List.append_nil _).symm
  | cons action rest ih =>
      rw [counted, List.flatMap_cons, ← List.append_assoc]
      rw [← (engine.givenBy_act action).functions, ← engine.size_natives_act action]
      exact ih (engine.act action)

theorem module?_afterActions (engine : Engine) (history : List Action) (name : String) :
    (engine.afterActions history).host.module? name =
      ((counted engine.host.natives.size history).reverse.findSome?
        fun (count, action) => action.module? name count).or (engine.host.module? name) := by
  induction history generalizing engine with
  | nil => rfl
  | cons action rest ih =>
      rw [counted, List.reverse_cons, List.findSome?_append, Option.or_assoc]
      rw [List.findSome?_singleton]
      rw [← (engine.givenBy_act action).modules, ← engine.size_natives_act action]
      exact ih (engine.act action)

/-- The functions that a host has registered, and those of its modules, are told by its history. -/
theorem host_of_history (program : Program) (reader : ProgramReader) (history : List Action) :
    let engine := (ofProgram program reader).afterActions history
    engine.host.functions = registeredFunctions history ∧
    (∀ name, engine.host.module? name = registeredModule? history name) ∧
    ∀ id, engine.host.native? id = (history.flatMap Action.given)[id.index]?.map Prod.snd := by
  intro engine
  refine ⟨functions_afterActions _ history, ?_, ?_⟩
  · intro name
    rw [module?_afterActions]
    exact Option.or_none ..
  · intro id
    rw [Host.native?, ← Array.getElem?_toList, natives_afterActions, ← List.getElem?_map]
    rfl

/-! ## Linking afresh -/

/-- The functions of the modules that a program imports, in the order of imports. -/
def moduleFunctions (history : List Action) (program : Program) : List (String × NativeId) :=
  (program.imports.filter fun unit => unit.kind = .nativeModule).flatMap
    fun unit => (registeredModule? history unit.name).getD []

/-- The libraries that a program imports, in the order of their first imports. -/
def importedLibraries (host : Host) (program : Program) : List Library :=
  (Path.distinct (host.libraryPaths program)).filterMap host.library?

/-- The functions that a program could call by name, in order of precedence. -/
def occurrences (history : List Action) (host : Host) (program : Program) :
    List (String × Linked) :=
  nativeEntries (registeredFunctions history) ++
    nativeEntries (moduleFunctions history program) ++
      libraryEntries (importedLibraries host program)

theorem host_moduleFunctions (program : Program) (reader : ProgramReader)
    (history : List Action) :
    ((ofProgram program reader).afterActions history).host.moduleFunctions program =
      moduleFunctions history program := by
  have modules_eq := (host_of_history program reader history).2.1
  simp only [Host.moduleFunctions, moduleFunctions, modules_eq]

/-- After any actions of the host, a program that is linked afresh has every name registered for
its first occurrence, and no other names.  The libraries are those at the distinct paths, and a
host function is the one that was given at the position of its identity.  Linking does not depend
on how imports of modules and of libraries are mixed. -/
theorem link_precedence (program : Program) (reader : ProgramReader) (history : List Action)
    (arguments : Option (List Value)) (linked : Context) :
    let engine := (ofProgram program reader).afterActions history
    engine.program.link engine.host arguments true engine.shared = (.ok (), linked) →
    (∀ name, linked.shared.registry.get? name =
      (occurrences history engine.host program).lookup name) ∧
    linked.shared.libraries.loaded = importedLibraries engine.host program ∧
    linked.shared.libraries.paths = Path.distinct (engine.host.libraryPaths program) ∧
    (∀ id, engine.host.native? id = (history.flatMap Action.given)[id.index]?.map Prod.snd) ∧
    ∀ imports : List ImportedUnit,
      (imports.filter fun unit => unit.kind = .nativeModule) =
        (program.imports.filter fun unit => unit.kind = .nativeModule) →
      (imports.filter fun unit => unit.kind = .library) =
        (program.imports.filter fun unit => unit.kind = .library) →
      { program with imports := imports }.link engine.host arguments true engine.shared =
        (.ok (), linked) := by
  intro engine links
  have program_eq : engine.program = program := program_afterActions _ history
  rw [program_eq] at links
  obtain ⟨functions_eq, -, natives_eq⟩ := host_of_history program reader history
  have modules_eq := host_moduleFunctions program reader history
  have all := Program.importsAll_of_link links
  obtain ⟨paths_eq, loaded_eq⟩ := all.loads.of_empty
  have entries_eq : nativeEntries engine.host.functions ++
      nativeEntries (engine.host.moduleFunctions program) ++
        libraryEntries linked.shared.libraries.loaded =
      occurrences history engine.host program := by
    rw [functions_eq, modules_eq, loaded_eq]
    rfl
  refine ⟨?_, loaded_eq, paths_eq, natives_eq, ?_⟩
  · intro name
    rw [all.registry_eq, entries_eq, Registry.get?_registerAll]
    exact Option.none_or ..
  · intro imports sameModules sameLibraries
    rw [Program.link_congr_imports sameModules sameLibraries rfl]
    exact links

/-- A program that imports a library before a module. -/
def mixedProgram : Program where
  imports := [⟨.library, "library"⟩, ⟨.nativeModule, "module"⟩]
  constants := []
  vars := []
  functions := []
  instructions := #[]

/-- The text of a library with a function. -/
def mixedLibrary : String :=
  "Program\x7bfunctions:[FunctionDefinition\x7bindex:1,name:\"own\",access:Public\x7d]\x7d"

/-- The module is registered twice, once before a function of the host and once after it. -/
def mixedHistory : List Action :=
  let function : NativeFunction := fun _ memory => (.ok .none, memory)
  [.registerModule "module" [("shared", function)], .registerFunction "shared" function,
    .registerModule "module" [("shared", function), ("other", function)],
    .setSearchPaths [⟨""⟩],
    .setFiles ⟨[(["work", "library.cvm"], .file mixedLibrary.toUTF8)], ["work"]⟩]

theorem link_precedence_mixedProgram :
    let engine :=
      (ofProgram mixedProgram (Program.decode Datum.format)).afterActions mixedHistory
    ∃ linked, engine.program.link engine.host .none true engine.shared = (.ok (), linked) ∧
      linked.shared.registry.get? "shared" = some (.native ⟨1⟩) ∧
      linked.shared.registry.get? "other" = some (.native ⟨3⟩) ∧
      linked.shared.registry.get? "own" = some (.library ⟨0, 1⟩) ∧
      linked.shared.registry.get? "module" = .none := by
  intro engine
  have succeeds : (engine.program.link engine.host .none true engine.shared).1.isOk = true := by
    decide +kernel
  have occurrences_eq : occurrences mixedHistory engine.host mixedProgram =
      [("shared", .native ⟨1⟩), ("shared", .native ⟨2⟩), ("other", .native ⟨3⟩),
        ("own", .library ⟨0, 1⟩)] := by
    decide +kernel
  rcases links : engine.program.link engine.host .none true engine.shared with ⟨_ | _, linked⟩
  · rw [links] at succeeds
    cases succeeds
  · have registry_eq := (link_precedence mixedProgram _ mixedHistory .none linked links).1
    rw [occurrences_eq] at registry_eq
    refine ⟨linked, rfl, ?_, ?_, ?_, ?_⟩ <;> rw [registry_eq] <;> rfl

end Engine

end ScriptMachine
