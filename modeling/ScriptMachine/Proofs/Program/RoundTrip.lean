import ScriptMachine.Library.Basic
import ScriptMachine.Program.Schema
import ScriptMachine.Proofs.Datum.Forms

/-!
# Stored programs are read back

In a format that obeys the laws, each part of a program is read back from its text if its parts
are.  From this it follows that a program is read from the text in which it is stored, with the same
declarations and instructions in the same order, and that a file with this text is loaded as the
program.  Numbers must be read back from the text that the format writes for them; for everything
else there is no condition.
-/

namespace ScriptMachine

open DataFormat (ReadsFields)

variable {format : DataFormat}

/-! ## Literals and operands -/

/-- Whether the number of a literal is read back from its text, if the literal is a number. -/
def Literal.NumberReadsBack (format : DataFormat) : Literal → Prop
  | .number value => format.ReadsBack .number value
  | _ => True

instance : DecidablePred (Literal.NumberReadsBack format)
  | .number value => inferInstanceAs (Decidable (format.ReadsBack .number value))
  | .none => isTrue trivial
  | .text _ => isTrue trivial

/-- Whether the number of an operand is read back from its text, if the operand has one. -/
def Operand.NumberReadsBack (format : DataFormat) : Operand → Prop
  | .literal value => value.NumberReadsBack format
  | _ => True

instance : DecidablePred (Operand.NumberReadsBack format)
  | .literal value => inferInstanceAs (Decidable (value.NumberReadsBack format))
  | .none | .label _ | .register _ | .variable _ | .rawAddress _ => isTrue trivial

section Lawful

variable (lawful : format.Lawful)
include lawful

theorem Literal.readsBack {literal : Literal} (number : literal.NumberReadsBack format) :
    format.ReadsBack schema literal := by
  refine lawful.choice (by decide) ?_
  cases literal with
  | none => exact .inl rfl
  | number value => exact .inr ⟨rfl, number⟩
  | text value => exact .inr ⟨rfl, lawful.text value⟩

theorem Operand.readsBack {operand : Operand} (number : operand.NumberReadsBack format) :
    format.ReadsBack schema operand := by
  refine lawful.choice (by decide) ?_
  cases operand with
  | none => exact .inl rfl
  | literal value => exact .inr ⟨rfl, Literal.readsBack lawful number⟩
  | label index => exact .inr ⟨rfl, lawful.word64 index⟩
  | register index => exact .inr ⟨rfl, lawful.octet index⟩
  | «variable» index => exact .inr ⟨rfl, lawful.word64 index⟩
  | rawAddress raw => exact .inr ⟨rfl, lawful.signed64 raw⟩

/-! ## Instructions -/

theorem Opcode.readsBack (opcode : Opcode) : format.ReadsBack schema opcode :=
  lawful.units (by decide) (by cases opcode <;> decide)

theorem Instruction.readsBack {instruction : Instruction}
    (numbers : ∀ operand ∈ instruction.operands, operand.NumberReadsBack format) :
    format.ReadsBack schema instruction := by
  have operands : format.ReadsBack (.list Operand.schema) instruction.operands :=
    lawful.list fun operand listed => Operand.readsBack lawful (numbers operand listed)
  have line := lawful.option lawful.word64 instruction.line
  exact lawful.record (by decide) rfl
    ⟨Opcode.readsBack lawful instruction.opcode, operands, line, trivial⟩

/-! ## Declarations -/

theorem Visibility.readsBack (visibility : Visibility) : format.ReadsBack schema visibility :=
  lawful.units (by decide) (by cases visibility <;> decide)

theorem ImportKind.readsBack (kind : ImportKind) : format.ReadsBack schema kind :=
  lawful.units (by decide) (by cases kind <;> decide)

theorem ImportedUnit.readsBack (unit : ImportedUnit) : format.ReadsBack schema unit :=
  lawful.record (by decide) rfl
    ⟨ImportKind.readsBack lawful unit.kind, lawful.text unit.name, trivial⟩

theorem ConstantDefinition.readsBack {constant : ConstantDefinition}
    (number : constant.value.NumberReadsBack format) : format.ReadsBack schema constant :=
  lawful.record (by decide) rfl
    ⟨lawful.word64 constant.index, Literal.readsBack lawful number, trivial⟩

/-- The index, the name and the visibility of a declaration are read back. -/
theorem readsFields_declaration (index : UInt64) (name : String) (visibility : Visibility) :
    ReadsFields format declarationFields (index, name, visibility, ()) :=
  ⟨lawful.word64 index, lawful.text name, Visibility.readsBack lawful visibility, trivial⟩

theorem VariableDefinition.readsBack (definition : VariableDefinition) :
    format.ReadsBack schema definition :=
  lawful.record (by decide) rfl (readsFields_declaration lawful _ _ _)

theorem FunctionDefinition.readsBack (definition : FunctionDefinition) :
    format.ReadsBack schema definition :=
  lawful.record (by decide) rfl (readsFields_declaration lawful _ _ _)

end Lawful

/-! ## Programs -/

/-- The text that a file holds in UTF-8 is read from it. -/
theorem Files.readText_of_open? {files : Files} {path : Path} {text : String}
    (found : files.open? path = .ok (.file text.toUTF8)) : files.readText path = .ok text := by
  have text_eq : String.fromUTF8? text.toUTF8 = some text := dif_pos text.isValidUTF8
  simp only [readText, found, text_eq]

namespace Program

/-- The numbers that are written in a program are read back from their texts. -/
structure NumbersReadBack (format : DataFormat) (program : Program) : Prop where
  constants : ∀ constant ∈ program.constants, constant.value.NumberReadsBack format
  operands : ∀ instruction ∈ program.instructions, ∀ operand ∈ instruction.operands,
    operand.NumberReadsBack format

theorem readsBack (lawful : format.Lawful) {program : Program}
    (numbers : program.NumbersReadBack format) : format.ReadsBack schema program := by
  have imports : format.ReadsBack (.list ImportedUnit.schema) program.imports :=
    lawful.list fun unit _ => ImportedUnit.readsBack lawful unit
  have constants : format.ReadsBack (.list ConstantDefinition.schema) program.constants :=
    lawful.list fun constant listed =>
      ConstantDefinition.readsBack lawful (numbers.constants constant listed)
  have vars : format.ReadsBack (.list VariableDefinition.schema) program.vars :=
    lawful.list fun definition _ => VariableDefinition.readsBack lawful definition
  have functions : format.ReadsBack (.list FunctionDefinition.schema) program.functions :=
    lawful.list fun definition _ => FunctionDefinition.readsBack lawful definition
  have instructions :
      format.ReadsBack (.list Instruction.schema) program.instructions.toList :=
    lawful.list fun instruction listed =>
      Instruction.readsBack lawful (numbers.operands instruction (Array.mem_def.mpr listed))
  exact lawful.record (by decide) rfl ⟨imports, constants, vars, functions, instructions, trivial⟩

/-- A program is read from the text in which it is stored, and a file with this text in UTF-8 is
loaded as the program. -/
theorem storage_round_trip (lawful : format.Lawful) {program : Program}
    (numbers : program.NumbersReadBack format) :
    decode format (encode format program) = .ok program ∧
      ∀ (files : Files) (path : Path) (libraries : Libraries),
        files.open? path = .ok (.file (encode format program).toUTF8) →
        libraries.find? path = none →
        (Libraries.load (decode format) files path).run libraries =
          (.ok libraries.size, ⟨libraries.loaded ++ [⟨path, program⟩]⟩) := by
  have decoded : decode format (encode format program) = .ok program := readsBack lawful numbers
  refine ⟨decoded, fun files path libraries found fresh => ?_⟩
  have text_eq := Files.readText_of_open? found
  simp only [Libraries.load, Task.run_bind, Task.run_get, fresh, text_eq, decoded,
    Task.run_ofUpdate, Libraries.insert]

/-- A program with texts that are escaped or are not ASCII, with the greatest and the least of its
indices and addresses, with a fraction and with absent operands at the end. -/
def quotingProgram : Program where
  imports := [⟨.library, "a \"quoted\" \\ unit"⟩, ⟨.nativeModule, ""⟩]
  constants :=
    [⟨0xFFFFFFFFFFFFFFFF, .number (Decimal.toBinary64 ⟨true, 125, -2⟩)⟩,
      ⟨0, .text "tab\t, line\n, return\r, bell\x07 and nothing\x00"⟩, ⟨0, .none⟩]
  vars := [⟨1, "größe", .exported⟩]
  functions := [⟨2, "λ\u2028", .hidden⟩]
  instructions :=
    #[⟨.move, [.register 255, .rawAddress (-0x8000000000000000), .none, .none],
        some 0xFFFFFFFFFFFFFFFF⟩,
      ⟨.add, [.variable 1, .label 2, .literal (.number .nan)], none⟩]

/-- The files with one file in the working directory. -/
def quotingFiles (content : ByteArray) : Files :=
  ⟨[(["work", "quoting.cvm"], .file content)], ["work"]⟩

theorem storage_round_trip_quotingProgram :
    Datum.format.Lawful ∧ quotingProgram.NumbersReadBack Datum.format ∧
      decode Datum.format (encode Datum.format quotingProgram) = .ok quotingProgram ∧
      (Libraries.load (decode Datum.format)
        (quotingFiles (encode Datum.format quotingProgram).toUTF8) ⟨"quoting.cvm"⟩).run .empty =
          (.ok 0, ⟨[⟨⟨"quoting.cvm"⟩, quotingProgram⟩]⟩) := by
  have numbers : quotingProgram.NumbersReadBack Datum.format :=
    ⟨by decide +kernel, by decide +kernel⟩
  have found (content : ByteArray) :
      (quotingFiles content).open? ⟨"quoting.cvm"⟩ = .ok (.file content) := rfl
  obtain ⟨decoded, loaded⟩ := storage_round_trip Datum.lawful_format numbers
  exact ⟨Datum.lawful_format, numbers, decoded, loaded _ _ .empty (found _) rfl⟩

end Program

end ScriptMachine
