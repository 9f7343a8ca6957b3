import Mathlib.Control.Monad.Basic
import ScriptMachine.Storage.Schema

/-!
# Laws of formats

What is relied on of a format, whatever its texts look like: words, octets and texts are read back
from what is written for them, and lists, options, records and choices are read back if their parts
are.  Nothing is said about numbers, since a format may write some of them inexactly or not as
numbers at all.

A value is read back if the text that is written for it alone is read as this value.
-/

namespace ScriptMachine

namespace DataFormat

variable (format : DataFormat)

/-- A value is what is read from the text that is written for it. -/
def ReadsBack {α : Type} (schema : Schema α) (value : α) : Prop :=
  format.read schema (format.write schema value) = .ok value

instance {α : Type} [DecidableEq α] (schema : Schema α) :
    DecidablePred (format.ReadsBack schema) :=
  fun value => inferInstanceAs
    (Decidable (format.read schema (format.write schema value) = .ok value))

/-- The values of fields are read back. -/
def ReadsFields : {γ : Type} → Fields γ → γ → Prop
  | _, .done, _ => True
  | _, .field _ _ content rest, (value, others) =>
      format.ReadsBack content value ∧ ReadsFields rest others

/-- The first variant that fits a value makes it from a content that is read back, if it has a
content. -/
def ReadsVariant : {α : Type} → Variants α → α → Prop
  | _, .done, _ => False
  | _, @Variants.unit _ _ _ single rest, value => value = single ∨ ReadsVariant rest value
  | _, .marked _ content mark content? rest, value =>
      match content? value with
      | some inner => mark inner = value ∧ format.ReadsBack content inner
      | none => ReadsVariant rest value

/-- The laws of a format. -/
structure Lawful : Prop where
  /-- All machine words are read back. -/
  word64 (value : UInt64) : format.ReadsBack .word64 value
  /-- All octets are read back. -/
  octet (value : UInt8) : format.ReadsBack .octet value
  /-- All signed machine words are read back. -/
  signed64 (value : Int64) : format.ReadsBack .signed64 value
  /-- Texts of any characters are read back. -/
  text (value : String) : format.ReadsBack .text value
  /-- Lists are read back with their items in order. -/
  list {α : Type} {item : Schema α} {values : List α}
    (each : ∀ value ∈ values, format.ReadsBack item value) :
    format.ReadsBack (.list item) values
  /-- What is absent is read back as absent. -/
  absent {α : Type} (content : Schema α) : format.ReadsBack (.option content) none
  /-- What is present is read back as present. -/
  present {α : Type} {content : Schema α} {value : α} (reads : format.ReadsBack content value) :
    format.ReadsBack (.option content) (some value)
  /-- Records of fields with different names are read back as the wholes of their parts. -/
  record {α γ : Type} {name : PlainName} {fields : Fields γ} {parts : α → γ} {whole : γ → α}
    {value : α} (distinct : fields.names.Nodup) (whole_eq : whole (parts value) = value)
    (reads : format.ReadsFields fields (parts value)) :
    format.ReadsBack (.record name fields parts whole) value
  /-- Choices between variants with different names are read back as what was chosen. -/
  choice {α : Type} {variants : Variants α} {value : α} (distinct : variants.names.Nodup)
    (reads : format.ReadsVariant variants value) : format.ReadsBack (.choice variants) value

/-- A single value is one of the variants that consist of it. -/
theorem readsVariant_ofUnits {α : Type} [DecidableEq α] (name : α → PlainName) {values : List α}
    {value : α} (listed : value ∈ values) :
    format.ReadsVariant (.ofUnits name values) value := by
  induction values with
  | nil => cases listed
  | cons single rest ih => exact (List.mem_cons.mp listed).imp id ih

end DataFormat

/-- The names of variants that are single values. -/
theorem Variants.names_ofUnits {α : Type} [DecidableEq α] (name : α → PlainName)
    (values : List α) :
    (ofUnits name values).names = values.map fun value => (name value).text := by
  induction values with
  | nil => rfl
  | cons single rest ih => exact congrArg ((name single).text :: ·) ih

namespace DataFormat.Lawful

variable {format : DataFormat} {α : Type}

/-- A choice between single values with different names is read back. -/
theorem units [DecidableEq α] (lawful : format.Lawful) {name : α → PlainName} {values : List α}
    (distinct : (values.map fun value => (name value).text).Nodup) {value : α}
    (listed : value ∈ values) : format.ReadsBack (.choice (.ofUnits name values)) value :=
  lawful.choice (Variants.names_ofUnits name values ▸ distinct)
    (format.readsVariant_ofUnits name listed)

/-- What may be absent is read back if it is read back where it is present. -/
theorem option (lawful : format.Lawful) {content : Schema α}
    (each : ∀ value, format.ReadsBack content value) :
    ∀ value, format.ReadsBack (.option content) value
  | none => lawful.absent content
  | some value => lawful.present (each value)

end DataFormat.Lawful

end ScriptMachine
