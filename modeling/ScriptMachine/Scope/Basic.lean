import ScriptMachine.Scope.Binding
import ScriptMachine.Value.Basic

/-!
# Scopes

The tables of one program in execution: where its variables are stored and where its
labels are.  Calls of labels share the scope of their program; a library function runs in
a scope of its own, so that caller and callee do not see each other's bindings.
-/

namespace ScriptMachine

/-- Variables and the cells they are bound to. -/
abbrev Variables := Table (Binding Address)

/-- Labels and the offsets at which they are marked. -/
abbrev Labels := Table (Binding Nat)

/-- The bindings of one program. -/
structure Scope where
  vars : Variables
  labels : Labels
  deriving DecidableEq

/-- The scope without bindings. -/
def Scope.empty : Scope := ⟨.empty, .empty⟩

instance : Inhabited Scope := ⟨Scope.empty⟩

end ScriptMachine
