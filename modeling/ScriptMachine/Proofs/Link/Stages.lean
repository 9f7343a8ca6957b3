import ScriptMachine.Proofs.Link.Imports

/-!
# Stages of linking

How far linking comes, and what it has done until then.  Imports are resolved first and
work on the registry and the libraries only; declarations follow, and work on the memory
and the new scope only; arguments are passed last.

Libraries are never unloaded, and those that are added are programs that the host has in
its files.
-/

namespace ScriptMachine

/-- How far linking comes. -/
inductive Program.Links (program : Program) (host : Host) (arguments : Option (List Value))
    (start : SharedState) : Except ExecutionError Unit → Context → Prop where
  | notImported {cause : Fault} {imported : SharedState}
      (imports : (SharedState.linkImports host program).run start = (.error cause, imported)) :
      Links program host arguments start (.error (.fault cause none)) ⟨imported, .empty⟩
  | notDeclared {imported : SharedState} {error : ExecutionError} {declared : Context}
      (imports : (SharedState.linkImports host program).run start = (.ok (), imported))
      (declares : program.declare imported = (.error error, declared)) :
      Links program host arguments start (.error error) declared
  | linked {imported : SharedState} {declared : Context}
      (imports : (SharedState.linkImports host program).run start = (.ok (), imported))
      (declares : program.declare imported = (.ok (), declared)) :
      Links program host arguments start (.ok ())
        { declared with shared := arguments.elim declared.shared declared.shared.passArguments }

theorem Program.links_of_link {program : Program} {host : Host} {arguments : Option (List Value)}
    {fresh : Bool} {shared : SharedState} {result : Except ExecutionError Unit} {linked : Context}
    (link_eq : program.link host arguments fresh shared = (result, linked)) :
    program.Links host arguments (if fresh then shared.reset else shared) result linked := by
  simp only [link] at link_eq
  split at link_eq
  · rename_i imports
    cases link_eq
    exact .notImported imports
  · rename_i imported imports
    split at link_eq
    · rename_i declares
      cases link_eq
      exact .notDeclared imports declares
    · rename_i declared declares
      cases arguments <;> cases link_eq <;> exact .linked imports declares

namespace Program.Links

variable {program : Program} {host : Host} {arguments : Option (List Value)} {start : SharedState}
  {result : Except ExecutionError Unit} {linked : Context}

/-- After imports linking works on the memory and the registers only. -/
theorem imports (links : program.Links host arguments start result linked) :
    ∃ outcome imported, (SharedState.linkImports host program).run start = (outcome, imported) ∧
      linked.shared.registry = imported.registry ∧ linked.shared.libraries = imported.libraries ∧
        (result = .ok () → outcome = .ok ()) := by
  cases links with
  | notImported imports => exact ⟨_, _, imports, rfl, rfl, fun linked => by cases linked⟩
  | notDeclared imports declares =>
      have declared_eq := congrArg Prod.snd declares
      subst declared_eq
      exact ⟨_, _, imports, rfl, rfl, fun linked => by cases linked⟩
  | linked imports declares =>
      have declared_eq := congrArg Prod.snd declares
      subst declared_eq
      cases arguments <;> exact ⟨_, _, imports, rfl, rfl, fun _ => rfl⟩

theorem importedTo (links : program.Links host arguments start result linked) :
    ∃ imported, start.ImportedTo host imported ∧
      linked.shared.registry = imported.registry ∧ linked.shared.libraries = imported.libraries ∧
        (result = .ok () → imported.Covered) := by
  obtain ⟨outcome, imported, imports, registry_eq, libraries_eq, succeeds⟩ := links.imports
  have ends := SharedState.linkImports_ends host program start
  cases outcome with
  | error cause =>
      exact ⟨imported, ends.of_run_error imports, registry_eq, libraries_eq,
        fun linked => by cases succeeds linked⟩
  | ok =>
      obtain ⟨importedTo, covered⟩ := ends.of_run_ok imports
      exact ⟨imported, importedTo, registry_eq, libraries_eq, fun _ => covered⟩

end Program.Links

/-- What holds of all programs that are loaded or loadable holds of those that are loaded after
linking. -/
theorem Program.libraries_of_link {program : Program} {host : Host}
    {arguments : Option (List Value)} {fresh : Bool} {shared : SharedState}
    {result : Except ExecutionError Unit} {linked : Context} {property : Program → Prop}
    (links : program.link host arguments fresh shared = (result, linked))
    (loaded : fresh = false → ∀ library ∈ shared.libraries.loaded, property library.program)
    (loadable : ∀ program, host.Loadable program → property program) :
    ∀ library ∈ linked.shared.libraries.loaded, property library.program := by
  obtain ⟨imported, imports, _, libraries_eq, _⟩ := (links_of_link links).importedTo
  intro library member
  rw [libraries_eq] at member
  rcases imports.libraries.mem member with earlier | added
  · cases fresh with
    | false => exact loaded rfl library earlier
    | true => cases earlier
  · exact loadable library.program added

end ScriptMachine
