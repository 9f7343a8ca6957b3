import ScriptMachine.Datum.Basic

/-!
# The layout of data

How data are written: each part of a list, tuple or record stands on a line of its own,
two spaces further in than the brackets, and there is no comma after the last.  Brackets
without parts stand together.

Texts are escaped so that they stand on one line and contain no control characters of
ASCII.
-/

namespace ScriptMachine

namespace Datum

/-- A character as it is written in a text. -/
def writtenChar (char : Char) : List Char :=
  if char = '\x00' then ['\\', '0']
  else if char = '\t' then ['\\', 't']
  else if char = '\n' then ['\\', 'n']
  else if char = '\r' then ['\\', 'r']
  else if char = '"' then ['\\', '"']
  else if char = '\\' then ['\\', '\\']
  else if char.toNat < 32 ∨ char.toNat = 127 then
    ['\\', 'x', Nat.digitChar (char.toNat / 16), Nat.digitChar (char.toNat % 16)]
  else [char]

/-- A text as it is written. -/
def writtenText (text : String) : List Char :=
  '"' :: (text.toList.flatMap writtenChar ++ ['"'])

/-- An atom as it is written. -/
def writtenAtom : Atom → List Char
  | .name text => text.toList
  | .number form => form
  | .boolean value => (if value then "true" else "false").toList
  | .text content => writtenText content
  | .bytes content =>
      'b' :: writtenText (String.ofList (content.map fun byte => Char.ofNat byte.toNat))
  | .character value => '\'' :: (writtenChar value ++ ['\''])
  | .byte value => 'b' :: '\'' :: (writtenChar (Char.ofNat value.toNat) ++ ['\''])

/-- The beginning of a line at a depth. -/
def newLine (depth : Nat) : List Char :=
  '\n' :: List.replicate (2 * depth) ' '

/-- The name before a bracket, if there is one. -/
def writtenName (name : Option String) : List Char :=
  match name with
  | some name => name.toList
  | none => []

mutual

/-- A datum as it is written at a depth. -/
def written (depth : Nat) : Datum → List Char
  | .atom value => writtenAtom value
  | .list items => '[' :: (writtenItems depth items ++ [']'])
  | .tuple name items =>
      writtenName name ++ '(' :: (writtenItems depth items ++ [')'])
  | .record name fields =>
      (if name.isSome then writtenName name ++ [' '] else []) ++
        '\x7b' :: (writtenFields depth fields ++ ['\x7d'])

/-- Items between brackets at a depth. -/
def writtenItems (depth : Nat) : List Datum → List Char
  | [] => []
  | item :: rest =>
      newLine (depth + 1) ++ written (depth + 1) item ++ writtenRest depth rest

/-- Items after the first, and the line of the closing bracket. -/
def writtenRest (depth : Nat) : List Datum → List Char
  | [] => newLine depth
  | item :: rest =>
      ',' :: (newLine (depth + 1) ++ written (depth + 1) item ++ writtenRest depth rest)

/-- Fields between braces at a depth. -/
def writtenFields (depth : Nat) : List (Datum × Datum) → List Char
  | [] => []
  | (key, value) :: rest =>
      newLine (depth + 1) ++ written (depth + 1) key ++ ':' :: ' ' ::
        (written (depth + 1) value ++ writtenFieldRest depth rest)

/-- Fields after the first, and the line of the closing brace. -/
def writtenFieldRest (depth : Nat) : List (Datum × Datum) → List Char
  | [] => newLine depth
  | (key, value) :: rest =>
      ',' :: (newLine (depth + 1) ++ written (depth + 1) key ++ ':' :: ' ' ::
        (written (depth + 1) value ++ writtenFieldRest depth rest))

end

/-- A datum as it is written in a file. -/
def text (datum : Datum) : String := String.ofList (written 0 datum)

end Datum

end ScriptMachine
