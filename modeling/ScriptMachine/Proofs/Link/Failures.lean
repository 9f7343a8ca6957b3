import ScriptMachine.Proofs.Link.Labels

/-!
# Failures of linking

What a program that cannot be linked or entered fails with.  Imports that are not resolved
and entries that are not found are faults of their own kind, which no instruction raises,
and they have no location.  The only failure of linking with a location is that of a label
instruction which names no label.
-/

namespace ScriptMachine

/-- The faults of imports and entries. -/
def Fault.OfLinking : Fault → Prop
  | .unresolvedImport _ | .invalidLibrary .. | .missingEntryPoint _ => True
  | _ => False

theorem Fault.OfOperand.not_ofLinking {cause : Fault} (ofOperand : cause.OfOperand) :
    ¬cause.OfLinking := by
  cases cause <;> first | exact id | exact ofOperand.elim

/-- The failures of linking a program and of finding its entry. -/
inductive Program.LinkFailure (program : Program) : ExecutionError → Prop where
  | unlocated {cause : Fault} (ofLinking : cause.OfLinking) :
      LinkFailure program (.fault cause none)
  | mark {offset : Nat} {instruction : Instruction}
      (found : program.instructions[offset]? = some instruction) :
      LinkFailure program
        (.fault (.unsupportedOperand (instruction.operand 0))
          (some (.ofInstruction offset instruction)))

/-! ## Imports -/

theorem Libraries.load_refuses (reader : ProgramReader) (files : Files) (path : Path) :
    (load reader files path).RefusesOnly Fault.OfLinking := by
  apply Task.RefusesOnly.bind .get
  intro libraries
  cases libraries.find? path with
  | some index => exact .pure index
  | none =>
      cases files.readText path with
      | error failure => exact .throw trivial
      | ok text =>
          simp only
          cases reader text with
          | error reason => exact .throw trivial
          | ok program => exact .ofUpdate _

namespace SharedState

theorem importModule_refuses (host : Host) (unit : ImportedUnit) :
    (importModule host unit).RefusesOnly Fault.OfLinking := by
  unfold importModule
  split
  · exact .modify _
  · exact .throw trivial

theorem importLibrary_refuses (host : Host) (unit : ImportedUnit) :
    (importLibrary host unit).RefusesOnly Fault.OfLinking := by
  unfold importLibrary
  split
  · have loads := Libraries.load_refuses host.reader host.files ‹_›
    exact .within (loads.bind fun _ => .pure _)
  · exact .throw trivial

theorem linkImports_refuses (host : Host) (program : Program) :
    (linkImports host program).RefusesOnly Fault.OfLinking := by
  apply Task.RefusesOnly.bind (.modify _)
  intro _
  apply Task.RefusesOnly.bind (.forM (importModule_refuses host) _)
  intro _
  apply Task.RefusesOnly.bind (.forM (importLibrary_refuses host) _)
  intro _
  exact .modify _

end SharedState

/-! ## Labels -/

namespace Program

/-- Marking fails at an instruction, the position of which is counted from the offset of the
first. -/
theorem error_of_markLabels {labels marked : Labels} {offset : Nat}
    {instructions : List Instruction} {error : ExecutionError}
    (marks : markLabels labels offset instructions = (.error error, marked)) :
    ∃ position instruction, instructions[position]? = some instruction ∧
      error = .fault (.unsupportedOperand (instruction.operand 0))
        (some (.ofInstruction (offset + position) instruction)) := by
  induction instructions generalizing labels offset with
  | nil => cases marks
  | cons instruction rest ih =>
      have later {labels : Labels}
          (marks : markLabels labels (offset + 1) rest = (.error error, marked)) :
          ∃ position other, (instruction :: rest)[position]? = some other ∧
            error = .fault (.unsupportedOperand (other.operand 0))
              (some (.ofInstruction (offset + position) other)) := by
        obtain ⟨position, other, found, error_eq⟩ := ih marks
        rw [Nat.add_assoc, Nat.add_comm 1] at error_eq
        exact ⟨position + 1, other, found, error_eq⟩
      unfold markLabels at marks
      split at marks
      · split at marks
        · exact later marks
        · cases marks
          exact ⟨0, instruction, rfl, rfl⟩
      · exact later marks

/-- Linking fails as stated. -/
theorem linkFailure_of_link {program : Program} {host : Host} {arguments : Option (List Value)}
    {fresh : Bool} {shared : SharedState} {error : ExecutionError} {linked : Context}
    (fails : program.link host arguments fresh shared = (.error error, linked)) :
    program.LinkFailure error := by
  cases links_of_link fails with
  | notImported imports =>
      exact .unlocated ((SharedState.linkImports_refuses host program _).of_run_error imports)
  | notDeclared imports declares =>
      simp only [declare, Prod.mk.injEq] at declares
      obtain ⟨position, instruction, found, rfl⟩ := error_of_markLabels (Prod.ext declares.1 rfl)
      rw [Nat.zero_add]
      rw [Array.getElem?_toList] at found
      exact .mark found

/-- A missing entry is reported without a location. -/
theorem linkFailure_of_entryOffset (program : Program) {scope : Scope} {entry : Entry}
    {cause : Fault} (missing : scope.entryOffset entry = .error cause) :
    program.LinkFailure (.fault cause none) := by
  apply LinkFailure.unlocated
  cases entry with
  | function name | label label =>
      simp only [Scope.entryOffset] at missing
      split at missing
      · cases missing
      · cases missing
        trivial

end Program

end ScriptMachine
