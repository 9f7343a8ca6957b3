import ScriptMachine.Program.Basic
import ScriptMachine.Table

/-!
# Bindings

The tables of a program hold named bindings, and a name is resolved to the least index
that exports it.
-/

namespace ScriptMachine

/-- A name for something that may be missing: the cell of a variable, the offset of a
label. -/
structure Binding (τ : Type) where
  name : String
  visibility : Visibility
  target : Option τ
  deriving DecidableEq

/-- A binding that only its own program can use, by index. -/
def Binding.anonymous {τ : Type} (target : Option τ) : Binding τ :=
  ⟨"", .hidden, target⟩

/-- The least index whose binding exports a name. -/
def Table.resolve? {τ : Type} (table : Table (Binding τ)) (name : String) : Option Nat :=
  (table.toList.find? fun (_, binding) =>
    binding.visibility = .exported ∧ binding.name = name).map Prod.fst

end ScriptMachine
