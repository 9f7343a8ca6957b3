import ScriptMachine.Memory.Lists

/-!
# Inspection text

How lists and foreign values show themselves for inspection: a list by its slots, and a
foreign value by whether it has a payload.  Other values have no such text.
-/

namespace ScriptMachine

/-- A slot as it is shown. -/
def slotText : Option Address → String
  | some address => s!"Some(Address({address.index}))"
  | none => "None"

namespace Memory

/-- The text for inspection of a value. -/
def inspect? (memory : Memory) : Value → Option String
  | .list handle =>
      some ("[" ++ ", ".intercalate ((memory.slots handle).toList.map slotText) ++ "]")
  | .foreign none => some "Opaque(empty)"
  | .foreign (some _) => some "Opaque(..)"
  | _ => none

end Memory

end ScriptMachine
