import ScriptMachine.Program.Basic

/-!
# Drafts of programs

A `Draft` is a program under construction together with the source line that is being
compiled.  The line is given to every instruction that is added without one of its
own.
-/

namespace ScriptMachine

/-- A program under construction. -/
structure Draft where
  program : Program
  line : Option UInt64

namespace Draft

/-- The draft with which construction begins. -/
def empty : Draft := ⟨.empty, none⟩

/-- Adds an import. -/
def importUnit (draft : Draft) (kind : ImportKind) (name : String) : Draft :=
  { draft with program.imports := draft.program.imports ++ [⟨kind, name⟩] }

/-- Declares a constant. -/
def defineConstant (draft : Draft) (index : UInt64) (value : Literal) : Draft :=
  { draft with program.constants := draft.program.constants ++ [⟨index, value⟩] }

/-- Declares a variable. -/
def defineVariable (draft : Draft) (index : UInt64) (visibility : Visibility)
    (name : String) : Draft :=
  { draft with
    program.vars := draft.program.vars ++ [⟨index, name, visibility⟩] }

/-- Declares a function. -/
def defineFunction (draft : Draft) (index : UInt64) (visibility : Visibility)
    (name : String) : Draft :=
  { draft with
    program.functions := draft.program.functions ++ [⟨index, name, visibility⟩] }

/-- Sets the line that is being compiled. -/
def atLine (draft : Draft) (line : Option UInt64) : Draft :=
  { draft with line := line }

/-- Adds an instruction, at the current line unless it has one. -/
def push (draft : Draft) (instruction : Instruction) : Draft :=
  let located := { instruction with line := instruction.line <|> draft.line }
  { draft with program.instructions := draft.program.instructions.push located }

/-- Adds an instruction made from an opcode and operands. -/
def emit (draft : Draft) (opcode : Opcode) (operands : List Operand) : Draft :=
  draft.push (.make opcode operands)

end Draft

end ScriptMachine
