import ScriptMachine.Value.Basic

/-!
# Function registries

What programs can call by name.  The first registration of a name counts; later ones are
ignored.
-/

namespace ScriptMachine

/-- What a name is registered for. -/
inductive Linked where
  /-- A function of the host. -/
  | native (id : NativeId)
  /-- A function that a library exports. -/
  | library (reference : FunctionReference)
  deriving DecidableEq

/-- Names, each at most once, with what they are registered for. -/
structure Registry where
  entries : List (String × Linked)
  deriving DecidableEq

namespace Registry

/-- The registry without names. -/
def empty : Registry := ⟨[]⟩

instance : Inhabited Registry := ⟨empty⟩

/-- What a name is registered for. -/
def get? (registry : Registry) (name : String) : Option Linked :=
  registry.entries.lookup name

/-- Whether a name is registered. -/
def contains (registry : Registry) (name : String) : Bool :=
  (registry.get? name).isSome

/-- The number of registered names. -/
def size (registry : Registry) : Nat := registry.entries.length

/-- Registers a name unless it is registered. -/
def register (registry : Registry) (name : String) (linked : Linked) : Registry :=
  if registry.contains name then registry
  else ⟨registry.entries ++ [(name, linked)]⟩

/-- Registers names in order. -/
def registerAll (registry : Registry) (entries : List (String × Linked)) : Registry :=
  entries.foldl (fun registry (name, linked) => registry.register name linked) registry

end Registry

end ScriptMachine
