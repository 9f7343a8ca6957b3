import ScriptMachine.Datum.Token

/-!
# Data

A datum is an atom, a list, a tuple with or without a name, or a record of fields with or
without a name.  The brackets tell which: square ones enclose lists, round ones tuples and
curly ones records.  Commas separate the parts, and one may stand after the last.

`Datum.ofTokens?` reads tokens as one datum.  Each call consumes a token, so that the
number of tokens bounds the depth of calls.
-/

namespace ScriptMachine

/-- Data of the notation in which programs are stored. -/
inductive Datum where
  | atom (value : Atom)
  | list (items : List Datum)
  | tuple (name : Option String) (items : List Datum)
  | record (name : Option String) (fields : List (Datum × Datum))
  deriving Inhabited

namespace Datum

mutual

/-- Reads a datum from the front of tokens. -/
def scan? : (bound : Nat) → List Token → Option (Datum × List Token)
  | 0, _ => none
  | bound + 1, .opening name .round :: rest => do
      let (items, rest) ← scanItems? bound .round rest
      return (.tuple name items, rest)
  | bound + 1, .opening _ .square :: rest => do
      let (items, rest) ← scanItems? bound .square rest
      return (.list items, rest)
  | bound + 1, .opening name .curly :: rest => do
      let (fields, rest) ← scanFields? bound rest
      return (.record name fields, rest)
  | _ + 1, .atom value :: rest => some (.atom value, rest)
  | _ + 1, _ => none

/-- Reads items to a closing bracket. -/
def scanItems? : (bound : Nat) → Bracket → List Token → Option (List Datum × List Token)
  | 0, _, _ => none
  | bound + 1, bracket, tokens =>
      match tokens with
      | .closing closing :: rest => if closing = bracket then some ([], rest) else none
      | _ => do
          let (item, rest) ← scan? bound tokens
          match rest with
          | .comma :: rest =>
              let (items, rest) ← scanItems? bound bracket rest
              return (item :: items, rest)
          | .closing closing :: rest =>
              if closing = bracket then some ([item], rest) else none
          | _ => none

/-- Reads fields to a closing brace. -/
def scanFields? : (bound : Nat) → List Token → Option (List (Datum × Datum) × List Token)
  | 0, _ => none
  | _ + 1, .closing .curly :: rest => some ([], rest)
  | bound + 1, tokens => do
      let (key, rest) ← scan? bound tokens
      match rest with
      | .colon :: rest =>
          let (value, rest) ← scan? bound rest
          match rest with
          | .comma :: rest =>
              let (fields, rest) ← scanFields? bound rest
              return ((key, value) :: fields, rest)
          | .closing .curly :: rest => some ([(key, value)], rest)
          | _ => none
      | _ => none

end

/-- Reads tokens as one datum. -/
def ofTokens? (tokens : List Token) : Option Datum :=
  match scan? tokens.length tokens with
  | some (datum, []) => some datum
  | _ => none

/-- Reads a text as one datum. -/
def ofChars? (text : List Char) : Option Datum :=
  (Token.ofChars? text).bind ofTokens?

end Datum

end ScriptMachine
