import ScriptMachine.Machine.Link
import ScriptMachine.Proofs.Task.Commuting

/-!
# What linking depends on

Imports are resolved without a look at the memory and the registers, and without a change of
them, whether or not they can be resolved.  Of the host they depend on what it provides:
the functions with names, the modules, and the files of libraries in the order in which they are
looked for.
-/

namespace ScriptMachine

/-! ## The memory and the registers -/

namespace SharedState

/-- The shared state with other memory and registers. -/
def withStore (memory : Memory) (registers : Registers) (shared : SharedState) : SharedState :=
  { shared with memory := memory, registers := registers }

variable (memory : Memory) (registers : Registers) (host : Host)

theorem registerNatives_commutes (entries : List (String × NativeId)) :
    (registerNatives entries).Commutes (withStore memory registers) :=
  Task.commutes_modify fun _ => rfl

theorem importModule_commutes (unit : ImportedUnit) :
    (importModule host unit).Commutes (withStore memory registers) := by
  unfold importModule
  cases host.module? unit.name with
  | some entries => exact registerNatives_commutes memory registers entries
  | none => exact Task.commutes_throw _

theorem importLibrary_commutes (unit : ImportedUnit) :
    (importLibrary host unit).Commutes (withStore memory registers) := by
  unfold importLibrary
  cases locateLibrary? host.files host.searchPaths unit.name with
  | some path =>
      apply Task.commutes_within
      · exact fun _ => rfl
      · exact fun _ _ => rfl
  | none => exact Task.commutes_throw _

theorem registerExports_commutes : registerExports.Commutes (withStore memory registers) :=
  Task.commutes_modify fun _ => rfl

/-- Imports are resolved, or refused, whatever is in the memory and the registers. -/
theorem linkImports_commutes (program : Program) :
    (linkImports host program).Commutes (withStore memory registers) :=
  (registerNatives_commutes memory registers host.functions).bind fun _ =>
    (Task.commutes_forM (importModule_commutes memory registers host) _).bind fun _ =>
      (Task.commutes_forM (importLibrary_commutes memory registers host) _).bind fun _ =>
        registerExports_commutes memory registers

/-- States that differ in the memory and the registers only still do so after imports, whether or
not these can be resolved. -/
theorem linkImports_alike (program : Program) {left right : SharedState}
    (registry_eq : left.registry = right.registry)
    (libraries_eq : left.libraries = right.libraries) :
    ∃ result registry libraries,
      (linkImports host program).run left =
          (result, { left with registry := registry, libraries := libraries }) ∧
        (linkImports host program).run right =
          (result, { right with registry := registry, libraries := libraries }) := by
  have same := linkImports_commutes left.memory left.registers host program left
  have other := linkImports_commutes right.memory right.registers host program left
  have left_eq : left.withStore left.memory left.registers = left := rfl
  have right_eq : left.withStore right.memory right.registers = right := by
    cases right
    cases registry_eq
    cases libraries_eq
    rfl
  rw [left_eq] at same
  rw [right_eq] at other
  exact ⟨_, _, _, same, other⟩

/-- However far imports come, they leave the memory and the registers alone. -/
theorem store_eq_of_linkImports {program : Program} {start imported : SharedState}
    {result : Except Fault Unit}
    (imports : (linkImports host program).run start = (result, imported)) :
    imported.memory = start.memory ∧ imported.registers = start.registers := by
  have registry_eq : start.registry = start.registry := rfl
  rcases linkImports_alike host program registry_eq rfl with ⟨_, _, _, run, -⟩
  cases run.symm.trans imports
  exact ⟨rfl, rfl⟩

end SharedState

/-! ## The host -/

/-- Two hosts provide the same for imports. -/
structure Host.ProvidesAlike (left right : Host) : Prop where
  functions_eq : left.functions = right.functions
  module?_eq : ∀ name, left.module? name = right.module? name
  searchPaths_eq : left.searchPaths = right.searchPaths
  files_eq : left.files = right.files
  reader_eq : left.reader = right.reader

namespace Host.ProvidesAlike

variable {left right : Host}

theorem linkImports_eq (alike : left.ProvidesAlike right) (program : Program) :
    SharedState.linkImports left program = SharedState.linkImports right program := by
  have importModule_eq : SharedState.importModule left = SharedState.importModule right := by
    funext unit
    simp only [SharedState.importModule, alike.module?_eq]
  have importLibrary_eq : SharedState.importLibrary left = SharedState.importLibrary right := by
    funext unit
    simp only [SharedState.importLibrary, alike.files_eq, alike.reader_eq, alike.searchPaths_eq]
  simp only [SharedState.linkImports, alike.functions_eq, importModule_eq, importLibrary_eq]

theorem link_eq (alike : left.ProvidesAlike right) (program : Program)
    (arguments : Option (List Value)) (fresh : Bool) (shared : SharedState) :
    program.link left arguments fresh shared = program.link right arguments fresh shared := by
  simp only [Program.link, alike.linkImports_eq]

end Host.ProvidesAlike

end ScriptMachine
