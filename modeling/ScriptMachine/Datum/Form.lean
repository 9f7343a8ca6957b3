import ScriptMachine.Datum.Layout
import ScriptMachine.Decimal.Shortest
import ScriptMachine.Instruction.Assembly
import ScriptMachine.Storage.Schema

/-!
# The forms of values as data

The notation is a format for the values of all schemas.  Records are written as records with a
name, choices as names or as tuples with a name and one item, and lists as lists.  Reading accepts
more: records without a name, lists in round brackets, fields in any order with unknown ones among
them, fields that are missing and have a default, and an option without its mark.
-/

namespace ScriptMachine

namespace Datum

/-! ## Parts of data -/

/-- A name alone. -/
def word (name : String) : Datum := .atom (.name name)

/-- A name with one datum in round brackets. -/
def tagged (name : String) (content : Datum) : Datum := .tuple (some name) [content]

/-- A natural number in decimal digits. -/
def natural (value : Nat) : Datum := .atom (.number (Nat.toDigits 10 value))

/-- The name that a name or text is. -/
def word? : Datum → Option String
  | .atom (.name name) => some name
  | .atom (.text name) => some name
  | _ => none

/-- The text that a text, a name or bytes in UTF-8 are. -/
def text? : Datum → Option String
  | .atom (.name name) => some name
  | .atom (.text content) => some content
  | .atom (.bytes content) => String.fromUTF8? ⟨content.toArray⟩
  | _ => none

/-- The integer that a number or byte is. -/
def integer? : Datum → Option Int
  | .atom (.number form) =>
      match Numeral.ofForm? form with
      | some (.integer value) => some value
      | _ => none
  | .atom (.byte value) => some value.toNat
  | _ => none

/-- The double precision number that a number or byte is. -/
def number? : Datum → Option Binary64
  | .atom (.number form) => (Numeral.ofForm? form).map Numeral.toBinary64
  | .atom (.byte value) => some (.ofInt value.toNat)
  | _ => none

/-- The machine word that a number is. -/
def word64? (datum : Datum) : Option UInt64 :=
  datum.integer?.bind fun value =>
    if 0 ≤ value ∧ value < UInt64.size then some (UInt64.ofNat value.toNat) else none

/-- The signed machine word that a number is. -/
def signed64? (datum : Datum) : Option Int64 :=
  datum.integer?.bind fun value =>
    if Int64.minValue.toInt ≤ value ∧ value ≤ Int64.maxValue.toInt then
      some (Int64.ofInt value)
    else none

/-- The octet that a number is. -/
def octet? (datum : Datum) : Option UInt8 :=
  datum.integer?.bind fun value =>
    if 0 ≤ value ∧ value < UInt8.size then some (UInt8.ofNat value.toNat) else none

/-- The items of a list or tuple, each read in the same way. -/
def listOf? {α : Type} (read : Datum → Option α) : Datum → Option (List α)
  | .list items => items.mapM read
  | .tuple _ items => items.mapM read
  | _ => none

/-- What may be absent: the name `None`, a datum under the name `Some`, or a datum. -/
def optionOf? {α : Type} (read : Datum → Option α) : Datum → Option (Option α)
  | .atom (.name "None") => some none
  | .tuple (some "Some") items =>
      match items with
      | [content] => (read content).map some
      | _ => none
  | datum => (read datum).map some

/-- The fields of a record of a name, or without name, by the texts of their keys. -/
def fieldsOf? (name : String) : Datum → Option (List (String × Datum))
  | .record found fields =>
      if found = none ∨ found = some name then
        fields.mapM fun (key, value) => key.text?.map (·, value)
      else none
  | _ => none

/-- The value of a field, which can occur once; it must occur unless it has a default. -/
def fieldOf? {α : Type} (fields : List (String × Datum)) (key : String) (absent : Option α)
    (read : Datum → Option α) : Option α :=
  match fields.filter fun field => field.1 = key with
  | [] => absent
  | [field] => read field.2
  | _ => none

/-- A record with a name and fields with names. -/
def recordOf (name : String) (fields : List (String × Datum)) : Datum :=
  .record (some name) (fields.map fun (key, value) => (word key, value))

/-- Whether a datum is the name of a single value. -/
def isUnit (name : String) (datum : Datum) : Bool := datum.word? = some name

/-- Whether a datum is a name with round or curly brackets. -/
def isBracketed (name : String) : Datum → Bool
  | .tuple found _ | .record found _ => found = some name
  | _ => false

/-- What is in round brackets after a name; only the first item counts. -/
def content? (name : String) : Datum → Option Datum
  | .tuple found (content :: _) => if found = some name then some content else none
  | _ => none

end Datum

/-! ## Writing values -/

mutual

/-- The datum of a value. -/
def Schema.datum : {α : Type} → Schema α → α → Datum
  | _, .word64, value => .natural value.toNat
  | _, .octet, value => .natural value.toNat
  | _, .signed64, value => .atom (.number (toString value.toInt).toList)
  | _, .number, value => .atom (.number (value.text programNumberWords).toList)
  | _, .text, value => .atom (.text value)
  | _, .list item, values => .list (values.map item.datum)
  | _, .option _, none => .word "None"
  | _, .option content, some value => .tagged "Some" (content.datum value)
  | _, .record name fields parts _, value => .recordOf name.text (fields.entries (parts value))
  | _, .choice variants, value => variants.datum value

/-- The names of fields with the data of their values. -/
def Fields.entries : {γ : Type} → Fields γ → γ → List (String × Datum)
  | _, .done, _ => []
  | _, .field name _ content rest, (value, others) =>
      (name.text, content.datum value) :: rest.entries others

/-- The datum of a value that is of one of some variants. -/
def Variants.datum : {α : Type} → Variants α → α → Datum
  | _, .done, _ => .tuple none []
  | _, @Variants.unit _ _ name single rest, value =>
      if value = single then .word name.text else rest.datum value
  | _, .marked name content _ content? rest, value =>
      match content? value with
      | some inner => .tagged name.text (content.datum inner)
      | none => rest.datum value

end

/-! ## Reading values -/

mutual

/-- Reads a datum as a value.  The name of a single value may have brackets after it, whose
content does not count, if it stands inside the brackets of another name. -/
def Schema.read? : {α : Type} → Schema α → (inside : Bool) → Datum → Option α
  | _, .word64, _, datum => datum.word64?
  | _, .octet, _, datum => datum.octet?
  | _, .signed64, _, datum => datum.signed64?
  | _, .number, _, datum => datum.number?
  | _, .text, _, datum => datum.text?
  | _, .list item, _, datum => datum.listOf? (item.read? false)
  | _, .option content, _, datum => datum.optionOf? (content.read? false)
  | _, .record name fields _ whole, _, datum =>
      (datum.fieldsOf? name.text).bind fun found => (fields.read? found).map whole
  | _, .choice variants, inside, datum => variants.read? inside datum

/-- Reads the fields of a record. -/
def Fields.read? : {γ : Type} → Fields γ → List (String × Datum) → Option γ
  | _, .done, _ => some ()
  | _, .field name absent content rest, found =>
      (Datum.fieldOf? found name.text absent (content.read? false)).bind fun value =>
        (rest.read? found).map fun others => (value, others)

/-- Reads a value of one of some variants. -/
def Variants.read? : {α : Type} → Variants α → (inside : Bool) → Datum → Option α
  | _, .done, _, _ => none
  | _, @Variants.unit _ _ name single rest, inside, datum =>
      if datum.isUnit name.text then some single
      else
        (rest.read? inside datum).or
          (if inside && datum.isBracketed name.text then some single else none)
  | _, .marked name content mark _ rest, inside, datum =>
      match datum.content? name.text with
      | some inner => (content.read? true inner).map mark
      | none => rest.read? inside datum

end

namespace Datum

/-- The notation as a format.  Whatever is not the text of a value is refused for one reason. -/
def format : DataFormat where
  write schema value := (schema.datum value).text
  read schema text :=
    match (ofChars? text.toList).bind (schema.read? false) with
    | some value => .ok value
    | none => .error "the text is not of the expected form"

end Datum

end ScriptMachine
