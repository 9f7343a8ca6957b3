import ScriptMachine.Machine.Link
import ScriptMachine.Proofs.Registry.Registration
import ScriptMachine.Proofs.Task.Ending

/-!
# Imports

What resolving imports does to the shared state, also when it fails on the way.  The memory
stays; libraries are only added, each from a file of the host; and a name is only added to
the registry, for a function that the host provides or for one that a loaded library exports.
When it succeeds, all that the loaded libraries export is registered.
-/

namespace ScriptMachine

/-! ## Registering -/

namespace Registry

/-- What is found was registered. -/
theorem mem_of_get? {registry : Registry} {name : String} {linked : Linked}
    (found : registry.get? name = some linked) : (name, linked) ∈ registry.entries := by
  obtain ⟨before, after, entries_eq, _⟩ := List.lookup_eq_some_iff.mp found
  simp [entries_eq]

theorem mem_register {registry : Registry} {name : String} {linked : Linked}
    {entry : String × Linked} (member : entry ∈ (registry.register name linked).entries) :
    entry ∈ registry.entries ∨ entry = (name, linked) := by
  unfold register at member
  split at member
  · exact .inl member
  · simpa using member

theorem mem_registerAll {registry : Registry} {entries : List (String × Linked)}
    {entry : String × Linked} (member : entry ∈ (registry.registerAll entries).entries) :
    entry ∈ registry.entries ∨ entry ∈ entries := by
  induction entries generalizing registry with
  | nil => exact .inl member
  | cons first rest ih =>
      rcases ih member with earlier | later
      · rcases mem_register earlier with before | same
        · exact .inl before
        · exact .inr (same ▸ List.mem_cons_self)
      · exact .inr (List.mem_cons_of_mem first later)

/-- All names are registered in the end, for what they stand for here or before. -/
theorem contains_registerAll {registry : Registry} {entries : List (String × Linked)}
    {entry : String × Linked} (member : entry ∈ entries) :
    (registry.registerAll entries).contains entry.1 = true := by
  have listed : (entries.lookup entry.1).isSome = true := by
    rw [Option.isSome_iff_ne_none]
    intro missing
    have different := List.lookup_eq_none_iff.mp missing entry member
    exact bne_iff_ne.mp different rfl
  rw [contains, get?_registerAll, Option.isSome_or, listed, Bool.or_true]

end Registry

/-! ## Libraries -/

/-- What the host has in the file of a library. -/
def Host.Loadable (host : Host) (program : Program) : Prop :=
  ∃ name path text, locateLibrary? host.files host.searchPaths name = some path ∧
    host.files.readText path = .ok text ∧ host.reader text = .ok program

/-- A library has a function that it exports by a name. -/
def Libraries.Exports (libraries : Libraries) (name : String) (reference : FunctionReference) :
    Prop :=
  ∃ library function, libraries.get? reference.library = some library ∧
    function ∈ library.program.functions ∧ function.visibility = .exported ∧
      function.name = name ∧ function.index = reference.label

theorem Libraries.mem_exports_iff (libraries : Libraries) (name : String)
    (reference : FunctionReference) :
    (name, reference) ∈ libraries.exports ↔ libraries.Exports name reference := by
  simp only [exports, toList, Library.exports, Program.exports, List.mem_flatMap, List.mem_map,
    List.mem_filter, decide_eq_true_eq, Prod.mk.injEq, Exports, get?]
  constructor
  · rintro ⟨_, ⟨⟨library, index⟩, listed, rfl⟩, _, ⟨function, ⟨member, exported⟩, rfl⟩, rfl, rfl⟩
    exact ⟨library, function, List.mem_zipIdx_iff_getElem?.mp listed, member, exported, rfl, rfl⟩
  · rintro ⟨library, function, found, member, exported, rfl, label_eq⟩
    have listed : (library, reference.library) ∈ libraries.loaded.zipIdx :=
      List.mem_zipIdx_iff_getElem?.mpr found
    have reference_eq : FunctionReference.mk reference.library function.index = reference := by
      rw [label_eq]
    exact ⟨(reference.library, library), ⟨(library, reference.library), listed, rfl⟩,
      (function.name, function.index), ⟨function, ⟨member, exported⟩, rfl⟩, rfl, reference_eq⟩

/-- The second libraries are the first with some that the host has. -/
def Libraries.LoadedTo (host : Host) (before after : Libraries) : Prop :=
  ∃ added, after.loaded = before.loaded ++ added ∧ ∀ library ∈ added, host.Loadable library.program

namespace Libraries.LoadedTo

variable {host : Host} {before middle after : Libraries}

theorem refl (libraries : Libraries) : libraries.LoadedTo host libraries :=
  ⟨[], (List.append_nil _).symm, by simp⟩

theorem trans (first : before.LoadedTo host middle) (second : middle.LoadedTo host after) :
    before.LoadedTo host after := by
  obtain ⟨firstAdded, middle_eq, firstLoadable⟩ := first
  obtain ⟨secondAdded, after_eq, secondLoadable⟩ := second
  apply Exists.intro (firstAdded ++ secondAdded)
  constructor
  · rw [after_eq, middle_eq, List.append_assoc]
  · intro library member
    rcases List.mem_append.mp member with member | member
    · exact firstLoadable library member
    · exact secondLoadable library member

/-- A loaded library keeps its index. -/
theorem get? (loaded : before.LoadedTo host after) {index : Nat} {library : Library}
    (found : before.get? index = some library) : after.get? index = some library := by
  obtain ⟨added, after_eq, _⟩ := loaded
  have index_lt := (List.getElem?_eq_some_iff.mp found).1
  rw [Libraries.get?, after_eq, List.getElem?_append_left index_lt]
  exact found

theorem exports (loaded : before.LoadedTo host after) {name : String}
    {reference : FunctionReference} (exported : before.Exports name reference) :
    after.Exports name reference := by
  obtain ⟨library, function, found, rest⟩ := exported
  exact ⟨library, function, loaded.get? found, rest⟩

/-- A library is one of the first or loadable. -/
theorem mem (loaded : before.LoadedTo host after) {library : Library}
    (member : library ∈ after.loaded) :
    library ∈ before.loaded ∨ host.Loadable library.program := by
  obtain ⟨added, after_eq, loadable⟩ := loaded
  rw [after_eq] at member
  rcases List.mem_append.mp member with member | member
  · exact .inl member
  · exact .inr (loadable library member)

end Libraries.LoadedTo

theorem Libraries.loadedTo_insert {host : Host} (libraries : Libraries) (path : Path)
    {program : Program} (loadable : host.Loadable program) :
    libraries.LoadedTo host (libraries.insert path program).2 := by
  unfold insert
  cases libraries.find? path with
  | some index => exact .refl libraries
  | none => exact ⟨[⟨path, program⟩], rfl, by simpa using loadable⟩

/-- Loading the file of a library adds at most its program. -/
theorem Libraries.load_ends {host : Host} {name : String} {path : Path}
    (located : locateLibrary? host.files host.searchPaths name = some path)
    (libraries : Libraries) :
    (load host.reader host.files path).Ends libraries (fun _ => libraries.LoadedTo host)
      (fun _ => libraries.LoadedTo host) := by
  unfold load
  apply Task.ends_bind.mpr (Task.ends_get.mpr _)
  cases libraries.find? path with
  | some index => exact (Task.ends_pure index).mpr (.refl libraries)
  | none =>
      cases read : host.files.readText path with
      | error failure => exact (Task.ends_throw _).mpr (.refl libraries)
      | ok text =>
          simp only
          cases decoded : host.reader text with
          | error reason => exact (Task.ends_throw _).mpr (.refl libraries)
          | ok program =>
              apply (Task.ends_ofUpdate _).mpr
              exact libraries.loadedTo_insert path ⟨name, path, text, located, read, decoded⟩

/-! ## The shared state -/

/-- A function of the host that a program can import by a name. -/
def Host.Provides (host : Host) (name : String) (id : NativeId) : Prop :=
  (name, id) ∈ host.functions ∨ ∃ moduleName entries, host.module? moduleName = some entries ∧
    (name, id) ∈ entries

/-- A name stands for a function of the host, or for one that a library exports. -/
inductive Linked.Available (host : Host) (libraries : Libraries) (name : String) :
    Linked → Prop where
  | native {id : NativeId} (provides : host.Provides name id) :
      Available host libraries name (.native id)
  | library {reference : FunctionReference} (exported : libraries.Exports name reference) :
      Available host libraries name (.library reference)

theorem Linked.Available.mono {host : Host} {before after : Libraries} {name : String}
    {linked : Linked} (available : linked.Available host before name)
    (loaded : before.LoadedTo host after) : linked.Available host after name := by
  cases available with
  | native provides => exact .native provides
  | library exported => exact .library (loaded.exports exported)

namespace SharedState

/-- The second shared state is the first with more libraries and more registered names. -/
structure ImportedTo (host : Host) (before after : SharedState) : Prop where
  memory_eq : after.memory = before.memory
  libraries : before.libraries.LoadedTo host after.libraries
  registry : ∀ entry ∈ after.registry.entries,
    entry ∈ before.registry.entries ∨ entry.2.Available host after.libraries entry.1

/-- Every name that a loaded library exports is registered. -/
def Covered (shared : SharedState) : Prop :=
  ∀ name reference, shared.libraries.Exports name reference →
    shared.registry.contains name = true

variable {host : Host} {before middle after : SharedState}

theorem ImportedTo.refl (shared : SharedState) : shared.ImportedTo host shared where
  memory_eq := rfl
  libraries := .refl shared.libraries
  registry _ member := .inl member

theorem ImportedTo.trans (first : before.ImportedTo host middle)
    (second : middle.ImportedTo host after) : before.ImportedTo host after where
  memory_eq := second.memory_eq.trans first.memory_eq
  libraries := first.libraries.trans second.libraries
  registry entry member := by
    rcases second.registry entry member with earlier | available
    · rcases first.registry entry earlier with before | available
      · exact .inl before
      · exact .inr (available.mono second.libraries)
    · exact .inr available

theorem ImportedTo.ends {α : Type} {task : Task SharedState α}
    (first : before.ImportedTo host middle)
    (second : task.Ends middle (fun _ => middle.ImportedTo host)
      (fun _ => middle.ImportedTo host)) :
    task.Ends middle (fun _ => before.ImportedTo host) (fun _ => before.ImportedTo host) :=
  second.mono (fun _ _ => first.trans) (fun _ _ => first.trans)

theorem importedTo_registerAll (shared : SharedState) {entries : List (String × Linked)}
    (available : ∀ entry ∈ entries, entry.2.Available host shared.libraries entry.1) :
    shared.ImportedTo host { shared with registry := shared.registry.registerAll entries } where
  memory_eq := rfl
  libraries := .refl shared.libraries
  registry entry member := (Registry.mem_registerAll member).imp_right (available entry)

theorem registerNatives_ends {entries : List (String × NativeId)}
    (provided : ∀ name id, (name, id) ∈ entries → host.Provides name id) (shared : SharedState) :
    (registerNatives entries).Ends shared (fun _ => shared.ImportedTo host)
      (fun _ => shared.ImportedTo host) := by
  apply (Task.ends_modify _).mpr
  apply importedTo_registerAll
  intro entry member
  obtain ⟨⟨name, id⟩, listed, rfl⟩ := List.mem_map.mp member
  exact .native (provided name id listed)

theorem importModule_ends (unit : ImportedUnit) (shared : SharedState) :
    (importModule host unit).Ends shared (fun _ => shared.ImportedTo host)
      (fun _ => shared.ImportedTo host) := by
  unfold importModule
  cases found : host.module? unit.name with
  | some entries =>
      exact registerNatives_ends (fun _ _ listed => .inr ⟨unit.name, entries, found, listed⟩) shared
  | none => exact (Task.ends_throw _).mpr (.refl shared)

theorem importLibrary_ends (unit : ImportedUnit) (shared : SharedState) :
    (importLibrary host unit).Ends shared (fun _ => shared.ImportedTo host)
      (fun _ => shared.ImportedTo host) := by
  have added {libraries : Libraries} (loaded : shared.libraries.LoadedTo host libraries) :
      shared.ImportedTo host { shared with libraries := libraries } :=
    ⟨rfl, loaded, fun _ member => .inl member⟩
  unfold importLibrary
  cases located : locateLibrary? host.files host.searchPaths unit.name with
  | some path =>
      apply Task.ends_within.mpr (Task.ends_bind.mpr _)
      apply (Libraries.load_ends located shared.libraries).mono
      · intro index libraries loaded
        exact (Task.ends_pure _).mpr (added loaded)
      · intro cause libraries loaded
        exact added loaded
  | none => exact (Task.ends_throw _).mpr (.refl shared)

/-- Exports are registered for what they are, and none is left out. -/
theorem registerExports_ends (shared : SharedState) :
    registerExports.Ends shared (fun _ after => shared.ImportedTo host after ∧ after.Covered)
      (fun _ => shared.ImportedTo host) := by
  apply (Task.ends_modify _).mpr
  constructor
  · apply importedTo_registerAll
    intro entry member
    obtain ⟨⟨name, reference⟩, listed, rfl⟩ := List.mem_map.mp member
    exact .library ((Libraries.mem_exports_iff _ name reference).mp listed)
  · intro name reference exported
    have listed := (Libraries.mem_exports_iff _ name reference).mpr exported
    exact Registry.contains_registerAll (List.mem_map_of_mem listed)

/-- Imports of one kind after others. -/
theorem ImportedTo.ends_forM {body : ImportedUnit → Task SharedState Unit}
    (first : before.ImportedTo host middle) (units : List ImportedUnit)
    (each : ∀ unit shared, (body unit).Ends shared (fun _ => shared.ImportedTo host)
      (fun _ => shared.ImportedTo host)) :
    (units.forM body).Ends middle (fun _ => before.ImportedTo host)
      (fun _ => before.ImportedTo host) := by
  apply Task.ends_forM first
  intro unit _ shared imported
  exact imported.ends (each unit shared)

/-- Whether or not all imports are resolved, the shared state has only been added to; and if
they are, all exports are registered. -/
theorem linkImports_ends (host : Host) (program : Program) (shared : SharedState) :
    (linkImports host program).Ends shared
      (fun _ after => shared.ImportedTo host after ∧ after.Covered)
      (fun _ => shared.ImportedTo host) := by
  unfold linkImports
  apply Task.ends_bind.mpr
  apply (registerNatives_ends (fun _ _ => .inl) shared).mono _ (fun _ _ imported => imported)
  intro _ afterNatives natives
  apply Task.ends_bind.mpr
  apply (natives.ends_forM _ importModule_ends).mono _ (fun _ _ imported => imported)
  intro _ afterModules imported
  apply Task.ends_bind.mpr
  apply (imported.ends_forM _ importLibrary_ends).mono _ (fun _ _ imported => imported)
  intro _ afterLibraries imported
  apply (registerExports_ends afterLibraries).mono
  · rintro _ after ⟨exports, covered⟩
    exact ⟨imported.trans exports, covered⟩
  · intro _ after exports
    exact imported.trans exports

end SharedState

end ScriptMachine
