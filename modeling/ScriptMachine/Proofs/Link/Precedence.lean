import ScriptMachine.Proofs.Link.Stages
import ScriptMachine.Proofs.Registry.Registration

/-!
# The order of imports

What successful imports leave, exactly: which libraries are loaded, and in which order functions
are registered.  Every path is loaded once, at its first import, and no name is registered before
all functions that precede it; so an occurrence of a name counts only if there is none before it.
-/

namespace ScriptMachine

/-! ## Paths -/

namespace Path

/-- Paths without those that are the same as one before. -/
def distinct : List Path → List Path
  | [] => []
  | path :: rest => path :: (distinct rest).filter fun other => !path.same other

/-- The paths that are not the same as a known one, each once. -/
def newTo (known paths : List Path) : List Path :=
  (distinct paths).filter fun path => !known.any (·.same path)

theorem same_congr {left right : Path} (same : left.same right = true) (other : Path) :
    left.same other = right.same other := by
  have steps_eq : left.steps = right.steps := of_decide_eq_true same
  rw [Path.same, steps_eq]
  rfl

theorem newTo_empty (paths : List Path) : newTo [] paths = distinct paths :=
  List.filter_eq_self.mpr fun _ _ => rfl

theorem newTo_singleton (known : List Path) (path : Path) :
    newTo known [path] = if known.any (·.same path) then [] else [path] := by
  cases same : known.any (·.same path) <;> simp [newTo, distinct, same]

/-- A path is known to those after it. -/
theorem newTo_cons (known : List Path) (path : Path) (rest : List Path) :
    newTo known (path :: rest) =
      newTo known [path] ++ newTo (known ++ newTo known [path]) rest := by
  rw [newTo_singleton]
  cases found : known.any (·.same path) with
  | true =>
      have keeps : ∀ other, (!path.same other && !known.any (·.same other)) =
          !known.any (·.same other) := by
        intro other
        cases same : path.same other with
        | false => rfl
        | true =>
            obtain ⟨earlier, member, earlier_same⟩ := List.any_eq_true.mp found
            have known_other : known.any (·.same other) = true := by
              apply List.any_eq_true.mpr ⟨earlier, member, _⟩
              rw [same_congr earlier_same, same]
            rw [known_other]
            rfl
      rw [if_pos rfl, List.nil_append, List.append_nil, newTo, distinct]
      rw [List.filter_cons_of_neg (by simp [found]), List.filter_filter]
      simp only [Bool.and_comm, keeps]
      rfl
  | false =>
      rw [if_neg Bool.false_ne_true, newTo, distinct]
      rw [List.filter_cons_of_pos (by simp [found]), List.filter_filter]
      simp [newTo, List.any_append, Bool.and_comm]

end Path

/-! ## Libraries -/

/-- The library in the file at a path. -/
def Host.library? (host : Host) (path : Path) : Option Library :=
  match host.files.readText path with
  | .error _ => none
  | .ok text => (host.reader text).toOption.map (Library.mk path)

namespace Libraries

/-- The paths of libraries, in order. -/
def paths (libraries : Libraries) : List Path := libraries.loaded.map Library.path

theorem isSome_find? (libraries : Libraries) (path : Path) :
    (libraries.find? path).isSome = libraries.paths.any (·.same path) := by
  rw [find?, List.findIdx?_isSome, paths, List.any_map]
  rfl

/-- The second libraries are the first with those at the paths that are new. -/
structure Loads (host : Host) (paths : List Path) (before after : Libraries) : Prop where
  paths_eq : after.paths = before.paths ++ Path.newTo before.paths paths
  loaded_eq : after.loaded =
    before.loaded ++ (Path.newTo before.paths paths).filterMap host.library?

namespace Loads

variable {host : Host} {before middle after : Libraries} {path : Path} {rest : List Path}

theorem nil (host : Host) (libraries : Libraries) : libraries.Loads host [] libraries :=
  ⟨(List.append_nil _).symm, (List.append_nil _).symm⟩

theorem cons (first : before.Loads host [path] middle) (others : middle.Loads host rest after) :
    before.Loads host (path :: rest) after where
  paths_eq := by
    rw [others.paths_eq, first.paths_eq, List.append_assoc, ← Path.newTo_cons]
  loaded_eq := by
    rw [others.loaded_eq, first.loaded_eq, first.paths_eq, List.append_assoc,
      Path.newTo_cons before.paths path rest, List.filterMap_append]

/-- Where nothing is loaded, each path is loaded once. -/
theorem of_empty {paths : List Path} (loads : empty.Loads host paths after) :
    after.paths = Path.distinct paths ∧
      after.loaded = (Path.distinct paths).filterMap host.library? := by
  rw [← Path.newTo_empty paths]
  exact ⟨loads.paths_eq, loads.loaded_eq⟩

theorem of_known (known : before.paths.any (·.same path) = true) :
    before.Loads host [path] before := by
  constructor <;> rw [Path.newTo_singleton, if_pos known] <;> exact (List.append_nil _).symm

theorem of_new {library : Library} (new : before.paths.any (·.same path) = false)
    (found : host.library? path = some library) (path_eq : library.path = path) :
    before.Loads host [path] ⟨before.loaded ++ [library]⟩ := by
  have newTo_eq : Path.newTo before.paths [path] = [path] := by
    rw [Path.newTo_singleton, if_neg (Bool.eq_false_iff.mp new)]
  constructor
  · rw [newTo_eq, ← path_eq, paths, List.map_append]
    rfl
  · rw [newTo_eq, List.filterMap_cons, found]
    rfl

end Loads

theorem load_loads (host : Host) (path : Path) (libraries : Libraries) :
    (load host.reader host.files path).Ends libraries (fun _ => libraries.Loads host [path])
      (fun _ _ => True) := by
  have known := libraries.isSome_find? path
  unfold load
  apply Task.ends_bind.mpr (Task.ends_get.mpr _)
  cases found : libraries.find? path with
  | some index =>
      rw [found] at known
      exact (Task.ends_pure index).mpr (.of_known known.symm)
  | none =>
      rw [found] at known
      cases read : host.files.readText path with
      | error failure => exact (Task.ends_throw _).mpr trivial
      | ok text =>
          simp only
          cases decoded : host.reader text with
          | error reason => exact (Task.ends_throw _).mpr trivial
          | ok program =>
              have library_eq : host.library? path = some ⟨path, program⟩ := by
                simp [Host.library?, read, decoded, Except.toOption]
              apply (Task.ends_ofUpdate _).mpr
              rw [insert, found]
              exact .of_new known.symm library_eq rfl

end Libraries

/-! ## Imports -/

/-- Host functions as they are registered. -/
def nativeEntries (functions : List (String × NativeId)) : List (String × Linked) :=
  functions.map fun (name, id) => (name, .native id)

/-- The functions that libraries export, as they are registered. -/
def libraryEntries (loaded : List Library) : List (String × Linked) :=
  loaded.zipIdx.flatMap fun (library, index) =>
    (library.program.functions.filter fun function => function.visibility = .exported).map
      fun function => (function.name, .library ⟨index, function.index⟩)

namespace Host

/-- The functions of the modules that a program imports, in the order of imports. -/
def moduleFunctions (host : Host) (program : Program) : List (String × NativeId) :=
  (program.imports.filter fun unit => unit.kind = .nativeModule).flatMap
    fun unit => (host.module? unit.name).getD []

/-- The paths of the libraries that a program imports, in the order of imports. -/
def libraryPaths (host : Host) (program : Program) : List Path :=
  (program.imports.filter fun unit => unit.kind = .library).filterMap
    fun unit => locateLibrary? host.files host.searchPaths unit.name

end Host

namespace SharedState

theorem forM_importModule (host : Host) (units : List ImportedUnit) (shared : SharedState) :
    (units.forM (importModule host)).Ends shared
      (fun _ after => after = { shared with
        registry := shared.registry.registerAll
          (nativeEntries (units.flatMap fun unit => (host.module? unit.name).getD [])) })
      (fun _ _ => True) := by
  induction units generalizing shared with
  | nil => exact (Task.ends_pure _).mpr rfl
  | cons unit rest ih =>
      rw [Task.ends_forM_cons, importModule]
      cases found : host.module? unit.name with
      | none => exact (Task.ends_throw _).mpr trivial
      | some entries =>
          apply (Task.ends_modify _).mpr
          apply (ih _).mono _ fun _ _ _ => trivial
          rintro _ after rfl
          simp [nativeEntries, found, Registry.registerAll_append]

theorem forM_importLibrary (host : Host) (units : List ImportedUnit) (shared : SharedState) :
    (units.forM (importLibrary host)).Ends shared
      (fun _ after => ∃ libraries, after = { shared with libraries := libraries } ∧
        shared.libraries.Loads host
          (units.filterMap fun unit => locateLibrary? host.files host.searchPaths unit.name)
          libraries)
      (fun _ _ => True) := by
  induction units generalizing shared with
  | nil => exact (Task.ends_pure _).mpr ⟨_, rfl, .nil host shared.libraries⟩
  | cons unit rest ih =>
      rw [Task.ends_forM_cons, importLibrary]
      cases located : locateLibrary? host.files host.searchPaths unit.name with
      | none => exact (Task.ends_throw _).mpr trivial
      | some path =>
          apply Task.ends_within.mpr (Task.ends_bind.mpr _)
          apply (Libraries.load_loads host path shared.libraries).mono _ fun _ _ _ => trivial
          intro index libraries first
          apply (Task.ends_pure _).mpr
          apply (ih _).mono _ fun _ _ _ => trivial
          rintro _ _ ⟨others, rfl, loads⟩
          rw [List.filterMap_cons, located]
          exact ⟨others, rfl, first.cons loads⟩

theorem exports_entries (libraries : Libraries) :
    (libraries.exports.map fun (name, reference) => (name, Linked.library reference)) =
      libraryEntries libraries.loaded := by
  simp [libraryEntries, Libraries.exports, Libraries.toList, Library.exports, Program.exports,
    List.map_flatMap, List.flatMap_map, Function.comp_def]

/-- The second shared state is the first after all imports of a program: libraries that are new
are loaded, and functions of the host, of modules and of libraries are registered, in this
order. -/
structure ImportsAll (host : Host) (program : Program) (before after : SharedState) : Prop where
  loads : before.libraries.Loads host (host.libraryPaths program) after.libraries
  registry_eq : after.registry = before.registry.registerAll
    (nativeEntries host.functions ++ nativeEntries (host.moduleFunctions program) ++
      libraryEntries after.libraries.loaded)

theorem linkImports_importsAll (host : Host) (program : Program) (shared : SharedState) :
    (linkImports host program).Ends shared (fun _ => shared.ImportsAll host program)
      (fun _ _ => True) := by
  unfold linkImports
  apply Task.ends_bind.mpr
  apply (Task.ends_modify _).mpr
  apply Task.ends_bind.mpr
  apply (forM_importModule host _ _).mono _ fun _ _ _ => trivial
  rintro _ _ rfl
  apply Task.ends_bind.mpr
  apply (forM_importLibrary host _ _).mono _ fun _ _ _ => trivial
  rintro _ _ ⟨libraries, rfl, loads⟩
  refine (Task.ends_modify _).mpr ⟨loads, ?_⟩
  rw [exports_entries, Registry.registerAll_append, Registry.registerAll_append]
  rfl

end SharedState

/-- The order of imports of one kind among those of the other does not matter to linking. -/
theorem Program.link_congr_imports {program other : Program}
    (modules_eq : (other.imports.filter fun unit => unit.kind = .nativeModule) =
      program.imports.filter fun unit => unit.kind = .nativeModule)
    (libraries_eq : (other.imports.filter fun unit => unit.kind = .library) =
      program.imports.filter fun unit => unit.kind = .library)
    (declares_eq : other = { program with imports := other.imports }) (host : Host)
    (arguments : Option (List Value)) (fresh : Bool) (shared : SharedState) :
    other.link host arguments fresh shared = program.link host arguments fresh shared := by
  have declare_eq (imported : SharedState) : other.declare imported = program.declare imported := by
    rw [declares_eq]
    rfl
  simp only [link, SharedState.linkImports, modules_eq, libraries_eq, declare_eq]

/-- What linking afresh leaves when it succeeds. -/
theorem Program.importsAll_of_link {program : Program} {host : Host}
    {arguments : Option (List Value)} {shared : SharedState} {linked : Context}
    (links : program.link host arguments true shared = (.ok (), linked)) :
    SharedState.empty.ImportsAll host program linked.shared := by
  obtain ⟨outcome, imported, imports, registry_eq, libraries_eq, succeeds⟩ :=
    (links_of_link links).imports
  cases succeeds rfl
  have all := (SharedState.linkImports_importsAll host program _).of_run_ok imports
  constructor
  · rw [libraries_eq]
    exact all.loads
  · rw [registry_eq, libraries_eq]
    exact all.registry_eq

end ScriptMachine
