import ScriptMachine.Library.Registry
import ScriptMachine.Library.Basic
import ScriptMachine.Memory.Basic
import ScriptMachine.Scope.Basic

/-!
# Shared state

The state that all programs of an execution share: the memory, the registers, the
registry of functions and the loaded libraries.  An instruction works on this state and
on the scope of its own program, which together are its `Context`.

Register zero holds the address of the list of arguments for calls.
-/

namespace ScriptMachine

/-- The 256 registers. -/
structure Registers where
  values : Vector Int64 256
  deriving DecidableEq

namespace Registers

/-- All registers at zero. -/
def zero : Registers := ⟨Vector.replicate 256 0⟩

instance : Inhabited Registers := ⟨zero⟩

/-- The content of a register. -/
def get (registers : Registers) (index : UInt8) : Int64 :=
  registers.values.get index.toFin

/-- Sets the content of a register. -/
def set (registers : Registers) (index : UInt8) (value : Int64) : Registers :=
  ⟨registers.values.set index.toNat value index.toNat_lt⟩

theorem get_set (registers : Registers) (index other : UInt8) (value : Int64) :
    (registers.set index value).get other =
      if other = index then value else registers.get other := by
  have same_iff : index.toNat = other.toNat ↔ other = index := by
    rw [UInt8.toNat_inj, eq_comm]
  have inside : other.toNat < 256 := other.toNat_lt
  change (registers.values.set index.toNat value index.toNat_lt)[other.toNat] = _
  rw [Vector.getElem_set]
  exact ite_congr (propext same_iff) (fun _ => rfl) (fun _ => rfl)

end Registers

/-- What the programs of an execution share. -/
structure SharedState where
  memory : Memory
  registers : Registers
  registry : Registry
  libraries : Libraries

namespace SharedState

/-- The state before the first execution. -/
def empty : SharedState := ⟨.empty, .zero, .empty, .empty⟩

instance : Inhabited SharedState := ⟨empty⟩

/-- Forgets registers, libraries and registered functions; the memory stays. -/
def reset (shared : SharedState) : SharedState :=
  { shared with registers := .zero, registry := .empty, libraries := .empty }

end SharedState

/-- What an instruction works on. -/
structure Context where
  shared : SharedState
  scope : Scope

instance : Inhabited Context := ⟨⟨default, default⟩⟩

namespace Context

/-- The memory of a context replaced. -/
def withMemory (memory : Memory) (context : Context) : Context :=
  { context with shared.memory := memory }

/-- Work on the memory of a context. -/
def onMemory {α : Type} (task : Task Memory α) : Task Context α :=
  Task.within (fun context => context.shared.memory) withMemory task

end Context

end ScriptMachine
