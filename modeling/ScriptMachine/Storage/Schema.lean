import ScriptMachine.Binary64.Basic

/-!
# Schemas of stored data

A `Schema` declares how the values of a type are stored.  Records have fields with names, some of
which may be missing and then have a default; choices have variants with names, some of which
contain a value.  What a value is stored as is up to a `DataFormat`, which writes and reads the
values of every schema.
-/

namespace ScriptMachine

/-! ## Names -/

/-- The words that are numbers or truth values. -/
def reservedWords : List String := ["inf", "NaN", "true", "false"]

/-- Whether a name consists of letters, is not the word for something else, and does not begin like
bytes or raw texts. -/
def isPlainName (name : String) : Bool :=
  match name.toList with
  | [] => false
  | first :: rest =>
      first.isAlpha && rest.all Char.isAlpha && first != 'b' && first != 'r' &&
        !reservedWords.contains name

/-- The name of a record, a field or a variant. -/
structure PlainName where
  text : String
  isPlain : isPlainName text = true

/-! ## Schemas -/

mutual

/-- How the values of a type are stored. -/
inductive Schema : Type → Type 1 where
  | word64 : Schema UInt64
  | octet : Schema UInt8
  | signed64 : Schema Int64
  | number : Schema Binary64
  | text : Schema String
  | list {α : Type} (item : Schema α) : Schema (List α)
  | option {α : Type} (content : Schema α) : Schema (Option α)
  /-- A record of the parts of a value, which make up the whole again. -/
  | record {α γ : Type} (name : PlainName) (fields : Fields γ) (parts : α → γ)
      (whole : γ → α) : Schema α
  /-- One of several variants. -/
  | choice {α : Type} (variants : Variants α) : Schema α

/-- The fields of a record, in order. -/
inductive Fields : Type → Type 1 where
  | done : Fields Unit
  /-- A field, with the value that it has where it is missing, if it may be missing. -/
  | field {β γ : Type} (name : PlainName) (absent : Option β) (content : Schema β)
      (rest : Fields γ) : Fields (β × γ)

/-- The variants of a choice, of which a value is the first that fits. -/
inductive Variants : Type → Type 1 where
  | done {α : Type} : Variants α
  /-- A single value. -/
  | unit {α : Type} [DecidableEq α] (name : PlainName) (value : α) (rest : Variants α) :
      Variants α
  /-- Values that are marks of a content. -/
  | marked {α β : Type} (name : PlainName) (content : Schema β) (mark : β → α)
      (content? : α → Option β) (rest : Variants α) : Variants α

end

/-- The names of fields. -/
def Fields.names : {γ : Type} → Fields γ → List String
  | _, .done => []
  | _, .field name _ _ rest => name.text :: rest.names

namespace Variants

/-- The names of variants. -/
def names : {α : Type} → Variants α → List String
  | _, .done => []
  | _, @unit _ _ name _ rest | _, .marked name _ _ _ rest => name.text :: rest.names

/-- The variants that are single values. -/
def ofUnits {α : Type} [DecidableEq α] (name : α → PlainName) (values : List α) : Variants α :=
  values.foldr (fun value rest => .unit (name value) value rest) .done

end Variants

/-! ## Formats -/

/-- A format writes the values of every schema as texts, and reads texts as values or tells why
they are none. -/
structure DataFormat where
  write : {α : Type} → Schema α → α → String
  read : {α : Type} → Schema α → String → Except String α

end ScriptMachine
