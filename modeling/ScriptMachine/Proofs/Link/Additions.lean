import ScriptMachine.Proofs.Link.Stages
import ScriptMachine.Proofs.Registry.Registration

/-!
# What linking adds

Linking is done again for every call of a library function, over functions, modules and files that
may be others by then, and it may fail on its way.  But a registered name is not registered again,
and a path that is loaded is not loaded again: registry and libraries are only added to.
-/

namespace ScriptMachine

/-! ## Libraries -/

namespace Libraries

/-- No two libraries were loaded from paths that are the same. -/
def Distinct (libraries : Libraries) : Prop :=
  libraries.loaded.Pairwise fun earlier later => earlier.path.same later.path = false

variable {libraries : Libraries} {path : Path}

theorem not_same_of_find? (missing : libraries.find? path = none) :
    ∀ library ∈ libraries.loaded, library.path.same path = false :=
  fun library member => Bool.eq_false_iff.mpr
    (List.findIdx?_eq_none_iff.mp missing library member ▸ Bool.false_ne_true)

/-- A library is only inserted under a path that no other one has. -/
theorem Distinct.insert (distinct : libraries.Distinct) (path : Path) (program : Program) :
    (libraries.insert path program).2.Distinct := by
  unfold Libraries.insert
  cases found : libraries.find? path with
  | some index => exact distinct
  | none =>
      apply List.pairwise_append.mpr ⟨distinct, List.pairwise_singleton _ _, _⟩
      intro library member other other_mem
      obtain rfl := List.mem_singleton.mp other_mem
      exact not_same_of_find? found library member

theorem prefix_insert (libraries : Libraries) (path : Path) (program : Program) :
    libraries.loaded <+: (libraries.insert path program).2.loaded := by
  unfold insert
  cases libraries.find? path with
  | some index => exact List.prefix_refl _
  | none => exact List.prefix_append _ _

theorem get?_of_prefix {before after : Libraries} (isPrefix : before.loaded <+: after.loaded)
    {index : Nat} {library : Library} (found : before.get? index = some library) :
    after.get? index = some library := by
  obtain ⟨added, after_eq⟩ := isPrefix
  have index_lt := (List.getElem?_eq_some_iff.mp found).1
  rw [get?, ← after_eq, List.getElem?_append_left index_lt]
  exact found

/-- Loading adds at most one library at the end, and what fails to load adds none. -/
theorem load_adds (reader : ProgramReader) (files : Files) (path : Path) (libraries : Libraries) :
    (load reader files path).Ends libraries
      (fun _ after => libraries.loaded <+: after.loaded ∧ (libraries.Distinct → after.Distinct))
      (fun _ after => after = libraries) := by
  unfold load
  apply Task.ends_bind.mpr (Task.ends_get.mpr _)
  cases libraries.find? path with
  | some index => exact (Task.ends_pure index).mpr ⟨List.prefix_refl _, id⟩
  | none =>
      cases files.readText path with
      | error failure => exact (Task.ends_throw _).mpr rfl
      | ok text =>
          simp only
          cases reader text with
          | error reason => exact (Task.ends_throw _).mpr rfl
          | ok program =>
              apply (Task.ends_ofUpdate _).mpr
              exact ⟨libraries.prefix_insert path program, (·.insert path program)⟩

end Libraries

/-! ## Linking -/

namespace SharedState

/-- The second shared state is the first with more registered names and, at the end, more
libraries, which are from other paths. -/
structure AddedTo (before after : SharedState) : Prop where
  registry : ∀ name linked, before.registry.get? name = some linked →
    after.registry.get? name = some linked
  libraries : before.libraries.loaded <+: after.libraries.loaded
  distinct : before.libraries.Distinct → after.libraries.Distinct

namespace AddedTo

variable {before middle after : SharedState}

theorem refl (shared : SharedState) : shared.AddedTo shared :=
  ⟨fun _ _ => id, List.prefix_refl _, id⟩

theorem trans (first : before.AddedTo middle) (second : middle.AddedTo after) :
    before.AddedTo after where
  registry name linked found := second.registry name linked (first.registry name linked found)
  libraries := first.libraries.trans second.libraries
  distinct := second.distinct ∘ first.distinct

theorem of_eq (registry_eq : after.registry = before.registry)
    (libraries_eq : after.libraries = before.libraries) : before.AddedTo after where
  registry name linked found := by
    rw [registry_eq]
    exact found
  libraries := ⟨[], by rw [libraries_eq, List.append_nil]⟩
  distinct distinct := by
    rw [libraries_eq]
    exact distinct

theorem registerAll (shared : SharedState) (entries : List (String × Linked)) :
    shared.AddedTo { shared with registry := shared.registry.registerAll entries } where
  registry name linked found := by
    rw [Registry.get?_registerAll, found, Option.some_or]
  libraries := List.prefix_refl _
  distinct := id

/-- Further work on a shared state that has been added to. -/
theorem ends {α : Type} {task : Task SharedState α} (first : before.AddedTo middle)
    (second : task.Ends middle (fun _ => middle.AddedTo) (fun _ => middle.AddedTo)) :
    task.Ends middle (fun _ => before.AddedTo) (fun _ => before.AddedTo) :=
  second.mono (fun _ _ => first.trans) (fun _ _ => first.trans)

end AddedTo

theorem registerNatives_adds (entries : List (String × NativeId)) (shared : SharedState) :
    (registerNatives entries).Ends shared (fun _ => shared.AddedTo) (fun _ => shared.AddedTo) :=
  (Task.ends_modify _).mpr (.registerAll shared _)

theorem importModule_adds (host : Host) (unit : ImportedUnit) (shared : SharedState) :
    (importModule host unit).Ends shared (fun _ => shared.AddedTo) (fun _ => shared.AddedTo) := by
  unfold importModule
  cases host.module? unit.name with
  | some entries => exact registerNatives_adds entries shared
  | none => exact (Task.ends_throw _).mpr (.refl shared)

theorem importLibrary_adds (host : Host) (unit : ImportedUnit) (shared : SharedState) :
    (importLibrary host unit).Ends shared (fun _ => shared.AddedTo) (fun _ => shared.AddedTo) := by
  unfold importLibrary
  cases locateLibrary? host.files host.searchPaths unit.name with
  | some path =>
      apply Task.ends_within.mpr (Task.ends_bind.mpr _)
      apply (Libraries.load_adds host.reader host.files path shared.libraries).mono
      · rintro index libraries ⟨isPrefix, distinct⟩
        exact (Task.ends_pure _).mpr ⟨fun _ _ => id, isPrefix, distinct⟩
      · rintro cause _ rfl
        exact .refl shared
  | none => exact (Task.ends_throw _).mpr (.refl shared)

/-- Whether or not all imports are resolved, the functions of the host are registered at first, and
from then on the shared state is only added to. -/
theorem linkImports_adds_registered (host : Host) (program : Program) (shared : SharedState) :
    let registered := { shared with
      registry := shared.registry.registerAll
        (host.functions.map fun (name, id) => (name, .native id)) }
    (linkImports host program).Ends shared (fun _ => registered.AddedTo)
      (fun _ => registered.AddedTo) := by
  intro registered
  have imports {middle : SharedState} {body : ImportedUnit → Task SharedState Unit}
      (first : registered.AddedTo middle) (units : List ImportedUnit)
      (each : ∀ unit shared,
        (body unit).Ends shared (fun _ => shared.AddedTo) (fun _ => shared.AddedTo)) :
      (units.forM body).Ends middle (fun _ => registered.AddedTo)
        (fun _ => registered.AddedTo) :=
    Task.ends_forM first fun unit _ shared added => added.ends (each unit shared)
  unfold linkImports
  apply Task.ends_bind.mpr
  apply (Task.ends_modify _).mpr
  apply Task.ends_bind.mpr
  apply (imports (.refl registered) _ (importModule_adds host)).mono _ (fun _ _ added => added)
  intro _ afterModules added
  apply Task.ends_bind.mpr
  apply (imports added _ (importLibrary_adds host)).mono _ (fun _ _ added => added)
  intro _ afterLibraries added
  exact (Task.ends_modify _).mpr (added.trans (.registerAll afterLibraries _))

/-- Whether or not all imports are resolved, the shared state has only been added to. -/
theorem linkImports_adds (host : Host) (program : Program) (shared : SharedState) :
    (linkImports host program).Ends shared (fun _ => shared.AddedTo) (fun _ => shared.AddedTo) :=
  (linkImports_adds_registered host program shared).mono
    (fun _ _ added => (AddedTo.registerAll shared _).trans added)
    (fun _ _ added => (AddedTo.registerAll shared _).trans added)

end SharedState

theorem Program.Links.addedTo {program : Program} {host : Host}
    {arguments : Option (List Value)} {start : SharedState} {result : Except ExecutionError Unit}
    {linked : Context} (links : program.Links host arguments start result linked) :
    start.AddedTo linked.shared := by
  obtain ⟨outcome, imported, imports, registry_eq, libraries_eq, -⟩ := links.imports
  have ends := SharedState.linkImports_adds host program start
  have added : start.AddedTo imported := by
    cases outcome with
    | error cause => exact ends.of_run_error imports
    | ok => exact ends.of_run_ok imports
  exact added.trans (.of_eq registry_eq libraries_eq)

end ScriptMachine
