import ScriptMachine.Proofs.Datum.Scanning

/-!
# Reading what is written

Data are read from the text that is written for them.  The tokens of the text are those of the
data: the blanks of the layout separate tokens and are no part of them, and a name belongs to the
bracket before which it is written.  The tokens are then read as the data, because each bracket
that is opened is closed behind its parts.

Legible data are those whose atoms and names are scanned as what they are.  An atom that is not,
because it is a number out of range, is refused, and so is every text that is written with it:
what is split into tokens at all is legible.
-/

namespace ScriptMachine

namespace Token

/-! ## Texts and their tokens -/

/-- A text is split into tokens, or refused, whatever the bound on its length is. -/
def Reads (text : List Char) (tokens : Option (List Token)) : Prop :=
  ∀ bound, text.length ≤ bound → ofCharsWithin? bound text = tokens

section Steps

variable {first : Char} {bound : Nat} {text : List Char}

theorem ofCharsWithin?_blank (spaced : isSpace first = true) :
    ofCharsWithin? (bound + 1) (first :: text) = ofCharsWithin? bound text :=
  if_pos spaced

theorem ofCharsWithin?_scan (not_space : isSpace first = false) (not_comment : first ≠ '/') :
    ofCharsWithin? (bound + 1) (first :: text) =
      ((scan first text).map joinBracket).bind fun (token, rest) =>
        (ofCharsWithin? bound rest).map (token :: ·) := by
  apply (if_neg (by simp [not_space])).trans
  split
  · exact absurd rfl not_comment
  · exact absurd rfl not_comment
  · cases (scan first text).map joinBracket <;> rfl

end Steps

theorem reads_nil : Reads [] (some []) := by
  intro bound _
  cases bound <;> rfl

namespace Reads

variable {text : List Char} {tokens : Option (List Token)}

theorem blank (char : Char) (spaced : isSpace char = true) (reads : Reads text tokens) :
    Reads (char :: text) tokens := by
  intro bound enough
  cases bound with
  | zero => simp at enough
  | succ bound =>
      rw [ofCharsWithin?_blank spaced]
      exact reads bound (by simpa using enough)

theorem blanks {chars : List Char} (spaced : ∀ char ∈ chars, isSpace char = true)
    (reads : Reads text tokens) : Reads (chars ++ text) tokens := by
  induction chars with
  | nil => exact reads
  | cons char rest ih =>
      exact blank char (spaced char (by simp)) (ih fun char member => spaced char (by simp [member]))

/-- The beginning of a line is not part of a token. -/
theorem newLine (depth : Nat) (reads : Reads text tokens) :
    Reads (Datum.newLine depth ++ text) tokens :=
  reads.blanks fun _ => isSpace_newLine

/-- A token that is scanned is the first one. -/
theorem token {chars following : List Char} {scanned : Option (Token × List Char)} {token : Token}
    (scans : ScansTo chars following scanned)
    (joined : scanned.map joinBracket = some (token, text))
    (shorter : text.length ≤ following.length) (reads : Reads text tokens) :
    Reads (chars ++ following) (tokens.map (token :: ·)) := by
  obtain ⟨first, rest, rfl, not_space, not_comment, scan_eq⟩ := scans
  rw [List.cons_append]
  intro bound enough
  cases bound with
  | zero => simp at enough
  | succ bound =>
      have within : ofCharsWithin? bound text = tokens :=
        reads bound (by simp at enough; omega)
      simp [ofCharsWithin?_scan not_space not_comment, scan_eq, joined, within]

/-- What cannot be scanned is refused. -/
theorem refused {chars following : List Char} (scans : ScansTo chars following none) :
    Reads (chars ++ following) none := by
  obtain ⟨first, rest, rfl, not_space, not_comment, scan_eq⟩ := scans
  rw [List.cons_append]
  intro bound enough
  cases bound with
  | zero => simp at enough
  | succ bound => simp [ofCharsWithin?_scan not_space not_comment, scan_eq]

/-- An atom is the first token before every end. -/
theorem atom {chars : List Char} {value : Atom} (scans : Scans chars value) (ends : Ends text)
    (reads : Reads text tokens) : Reads (chars ++ text) (tokens.map (.atom value :: ·)) :=
  token (scans text ends) (congrArg some (ends.joinBracket_eq value)) (Nat.le_refl _) reads

section Names

variable {name : String}

/-- A name before a round bracket belongs to it. -/
theorem namedRound (plain : isPlainName name = true) (reads : Reads text tokens) :
    Reads (name.toList ++ '(' :: text)
      (tokens.map (.opening (some name) .round :: ·)) := by
  have scans := scansTo_name plain ('(' :: text) (by simp; decide +kernel)
  exact token scans rfl (by simp) reads

/-- A name before a curly bracket belongs to it, with a blank between them. -/
theorem namedCurly (plain : isPlainName name = true) (reads : Reads text tokens) :
    Reads (name.toList ++ ' ' :: '\x7b' :: text)
      (tokens.map (.opening (some name) .curly :: ·)) := by
  have scans := scansTo_name plain (' ' :: '\x7b' :: text) (by simp; decide +kernel)
  exact token scans rfl (by simp; omega) reads

end Names

/-- A bracket, comma or colon is the first token, whatever stands behind it. -/
theorem mark (char : Char) {token : Token} (not_space : isSpace char = false)
    (not_comment : char ≠ '/')
    (scanned : (scan char text).map joinBracket = some (token, text)) (reads : Reads text tokens) :
    Reads (char :: text) (tokens.map (token :: ·)) :=
  have scans : ScansTo [char] text (scan char text) := ⟨char, [], rfl, not_space, not_comment, rfl⟩
  Reads.token scans scanned (Nat.le_refl _) reads

end Reads

end Token

namespace Datum

open Token (Ends Reads isClosing)

/-! ## The tokens of data -/

mutual

/-- The tokens of a datum. -/
def tokens : Datum → List Token
  | .atom value => [.atom value]
  | .list items => .opening none .square :: (itemTokens items ++ [.closing .square])
  | .tuple name items => .opening name .round :: (itemTokens items ++ [.closing .round])
  | .record name fields => .opening name .curly :: (fieldTokens fields ++ [.closing .curly])

/-- The tokens of items between brackets. -/
def itemTokens : List Datum → List Token
  | [] => []
  | item :: rest => tokens item ++ restTokens rest

/-- The tokens of items after the first. -/
def restTokens : List Datum → List Token
  | [] => []
  | item :: rest => .comma :: (tokens item ++ restTokens rest)

/-- The tokens of fields between braces. -/
def fieldTokens : List (Datum × Datum) → List Token
  | [] => []
  | (key, value) :: rest => tokens key ++ .colon :: (tokens value ++ fieldRestTokens rest)

/-- The tokens of fields after the first. -/
def fieldRestTokens : List (Datum × Datum) → List Token
  | [] => []
  | (key, value) :: rest =>
      .comma :: (tokens key ++ .colon :: (tokens value ++ fieldRestTokens rest))

end

/-- Data with atoms that are scanned as what they are, and with names that are plain. -/
inductive Legible : Datum → Prop where
  | atom {value : Atom} (scans : Token.Scans (writtenAtom value) value) : Legible (.atom value)
  | list {items : List Datum} (all : ∀ item ∈ items, Legible item) : Legible (.list items)
  | tuple {name : Option String} {items : List Datum}
      (plain : ∀ text ∈ name, isPlainName text = true) (all : ∀ item ∈ items, Legible item) :
      Legible (.tuple name items)
  | record {name : Option String} {fields : List (Datum × Datum)}
      (plain : ∀ text ∈ name, isPlainName text = true)
      (keys : ∀ field ∈ fields, Legible field.1) (values : ∀ field ∈ fields, Legible field.2) :
      Legible (.record name fields)

/-! ## The tokens of what is written -/

/-- The text that is written for a datum consists of its tokens, before every end. -/
def WritesTokens (datum : Datum) : Prop :=
  ∀ (depth : Nat) {text : List Char} {tokens : Option (List Token)}, Ends text →
    Reads text tokens → Reads (written depth datum ++ text) (tokens.map (datum.tokens ++ ·))

section Layout

variable {bracket : Char} {text : List Char} {tokens : Option (List Token)}

theorem ends_writtenRest (depth : Nat) (items : List Datum) (closes : isClosing bracket = true) :
    Ends (writtenRest depth items ++ bracket :: text) := by
  cases items with
  | nil => exact .closing depth closes text
  | cons => exact .comma _

theorem ends_writtenFieldRest (depth : Nat) (fields : List (Datum × Datum))
    (closes : isClosing bracket = true) :
    Ends (writtenFieldRest depth fields ++ bracket :: text) := by
  cases fields with
  | nil => exact .closing depth closes text
  | cons => exact .comma _

theorem reads_writtenRest (depth : Nat) {items : List Datum}
    (each : ∀ item ∈ items, item.WritesTokens) (closes : isClosing bracket = true)
    (reads : Reads (bracket :: text) tokens) :
    Reads (writtenRest depth items ++ bracket :: text) (tokens.map (restTokens items ++ ·)) := by
  induction items with
  | nil => simpa [writtenRest, restTokens] using reads.newLine depth
  | cons item rest ih =>
      obtain ⟨item_writes, rest_write⟩ := List.forall_mem_cons.mp each
      have item_reads := item_writes (depth + 1) (ends_writtenRest depth rest closes)
        (ih rest_write)
      have comma_reads := (item_reads.newLine (depth + 1)).mark ',' (by decide) (by decide) rfl
      simpa [writtenRest, restTokens, Function.comp_def] using comma_reads

theorem reads_writtenItems (depth : Nat) {items : List Datum}
    (each : ∀ item ∈ items, item.WritesTokens) (closes : isClosing bracket = true)
    (reads : Reads (bracket :: text) tokens) :
    Reads (writtenItems depth items ++ bracket :: text) (tokens.map (itemTokens items ++ ·)) := by
  cases items with
  | nil => simpa [writtenItems, itemTokens] using reads
  | cons item rest =>
      obtain ⟨item_writes, rest_write⟩ := List.forall_mem_cons.mp each
      have item_reads := item_writes (depth + 1) (ends_writtenRest depth rest closes)
        (reads_writtenRest depth rest_write closes reads)
      simpa [writtenItems, itemTokens, Function.comp_def] using item_reads.newLine (depth + 1)

/-- A field consists of the tokens of its key and of its value, with a colon between them. -/
theorem reads_field (depth : Nat) {key value : Datum} (key_writes : key.WritesTokens)
    (value_writes : value.WritesTokens) (ends : Ends text) (reads : Reads text tokens) :
    Reads (newLine depth ++ (written depth key ++ ':' :: ' ' :: (written depth value ++ text)))
      (tokens.map fun tokens => key.tokens ++ .colon :: (value.tokens ++ tokens)) := by
  have value_reads := value_writes depth ends reads
  have colon_reads := (value_reads.blank ' ' rfl).mark ':' (by decide)
    (by decide) rfl
  simpa [Function.comp_def] using (key_writes depth (.colon _) colon_reads).newLine depth

theorem reads_writtenFieldRest (depth : Nat) {fields : List (Datum × Datum)}
    (keys : ∀ field ∈ fields, field.1.WritesTokens)
    (values : ∀ field ∈ fields, field.2.WritesTokens) (closes : isClosing bracket = true)
    (reads : Reads (bracket :: text) tokens) :
    Reads (writtenFieldRest depth fields ++ bracket :: text)
      (tokens.map (fieldRestTokens fields ++ ·)) := by
  induction fields with
  | nil => simpa [writtenFieldRest, fieldRestTokens] using reads.newLine depth
  | cons field rest ih =>
      obtain ⟨key, value⟩ := field
      obtain ⟨key_writes, keys_write⟩ := List.forall_mem_cons.mp keys
      obtain ⟨value_writes, values_write⟩ := List.forall_mem_cons.mp values
      have field_reads := reads_field (depth + 1) key_writes value_writes
        (ends_writtenFieldRest depth rest closes) (ih keys_write values_write)
      have comma_reads := field_reads.mark ',' (by decide) (by decide) rfl
      simpa [writtenFieldRest, fieldRestTokens, Function.comp_def] using comma_reads

theorem reads_writtenFields (depth : Nat) {fields : List (Datum × Datum)}
    (keys : ∀ field ∈ fields, field.1.WritesTokens)
    (values : ∀ field ∈ fields, field.2.WritesTokens) (closes : isClosing bracket = true)
    (reads : Reads (bracket :: text) tokens) :
    Reads (writtenFields depth fields ++ bracket :: text)
      (tokens.map (fieldTokens fields ++ ·)) := by
  cases fields with
  | nil => simpa [writtenFields, fieldTokens] using reads
  | cons field rest =>
      obtain ⟨key, value⟩ := field
      obtain ⟨key_writes, keys_write⟩ := List.forall_mem_cons.mp keys
      obtain ⟨value_writes, values_write⟩ := List.forall_mem_cons.mp values
      have field_reads := reads_field (depth + 1) key_writes value_writes
        (ends_writtenFieldRest depth rest closes)
        (reads_writtenFieldRest depth keys_write values_write closes reads)
      simpa [writtenFields, fieldTokens, Function.comp_def] using field_reads

end Layout

/-- Legible data are written as their tokens. -/
theorem Legible.writesTokens {datum : Datum} (legible : datum.Legible) : datum.WritesTokens := by
  induction legible with
  | atom scans =>
      intro depth text tokens ends reads
      exact reads.atom scans ends
  | @list items _ each =>
      intro depth text tokens ends reads
      have closing_reads := reads.mark ']' (by decide) (by decide) rfl
      have items_read := reads_writtenItems depth each (by decide) closing_reads
      have opening_reads := items_read.mark '[' (by decide) (by decide) rfl
      simpa [written, Datum.tokens, Function.comp_def] using opening_reads
  | @tuple name items plain _ each =>
      intro depth text tokens ends reads
      have closing_reads := reads.mark ')' (by decide) (by decide) rfl
      have items_read := reads_writtenItems depth each (by decide) closing_reads
      cases name with
      | none =>
          have opening_reads := items_read.mark '(' (by decide) (by decide) rfl
          simpa [written, writtenName, Datum.tokens, Function.comp_def] using opening_reads
      | some name =>
          have opening_reads := items_read.namedRound (plain name rfl)
          simpa [written, writtenName, Datum.tokens, Function.comp_def] using opening_reads
  | @record name fields plain _ _ keys values =>
      intro depth text tokens ends reads
      have closing_reads := reads.mark '\x7d' (by decide) (by decide) rfl
      have fields_read := reads_writtenFields depth keys values (by decide) closing_reads
      cases name with
      | none =>
          have opening_reads := fields_read.mark '\x7b' (by decide) (by decide) rfl
          simpa [written, Datum.tokens, Function.comp_def] using opening_reads
      | some name =>
          have opening_reads := fields_read.namedCurly (plain name rfl)
          simpa [written, writtenName, Datum.tokens, Function.comp_def] using opening_reads

/-! ## Data that are refused -/

/-- Every text in which a datum is written is refused. -/
def Refused (datum : Datum) : Prop :=
  ∀ (depth : Nat) {text : List Char}, Ends text → Reads (written depth datum ++ text) none

/-- Data that would be legible, were it not for atoms that are refused. -/
inductive Formed : Datum → Prop where
  | atom {value : Atom} (scans : Token.Scans (writtenAtom value) value) : Formed (.atom value)
  | refused {value : Atom}
      (refuses : ∀ {text : List Char}, Ends text → Token.ScansTo (writtenAtom value) text none) :
      Formed (.atom value)
  | list {items : List Datum} (all : ∀ item ∈ items, Formed item) : Formed (.list items)
  | tuple {name : Option String} {items : List Datum}
      (plain : ∀ text ∈ name, isPlainName text = true) (all : ∀ item ∈ items, Formed item) :
      Formed (.tuple name items)
  | record {name : Option String} {fields : List (Datum × Datum)}
      (plain : ∀ text ∈ name, isPlainName text = true)
      (keys : ∀ field ∈ fields, Legible field.1) (values : ∀ field ∈ fields, Formed field.2) :
      Formed (.record name fields)

section Refusal

variable {datum : Datum} {bracket : Char} {text : List Char}

/-- A text is refused where it begins with what is refused, or goes on with it. -/
theorem reads_none (depth : Nat) (decided : datum.Legible ∨ datum.Refused) (ends : Ends text)
    (refused : datum.Refused ∨ Reads text none) : Reads (written depth datum ++ text) none := by
  rcases refused with refused | behind
  · exact refused depth ends
  · rcases decided with legible | refused
    · exact legible.writesTokens depth ends behind
    · exact refused depth ends

theorem reads_none_writtenRest (depth : Nat) {items : List Datum}
    (each : ∀ item ∈ items, item.Legible ∨ item.Refused) (closes : isClosing bracket = true)
    (refused : ∃ item ∈ items, item.Refused) :
    Reads (writtenRest depth items ++ bracket :: text) none := by
  induction items with
  | nil => simp at refused
  | cons item rest ih =>
      obtain ⟨decided, others⟩ := List.forall_mem_cons.mp each
      simp only [List.mem_cons, exists_eq_or_imp] at refused
      have item_reads := reads_none (depth + 1) decided (ends_writtenRest depth rest closes)
        (refused.imp_right (ih others))
      have comma_reads := (item_reads.newLine (depth + 1)).mark ',' (by decide) (by decide) rfl
      simpa [writtenRest] using comma_reads

theorem reads_none_writtenItems (depth : Nat) {items : List Datum}
    (each : ∀ item ∈ items, item.Legible ∨ item.Refused) (closes : isClosing bracket = true)
    (refused : ∃ item ∈ items, item.Refused) :
    Reads (writtenItems depth items ++ bracket :: text) none := by
  cases items with
  | nil => simp at refused
  | cons item rest =>
      obtain ⟨decided, others⟩ := List.forall_mem_cons.mp each
      simp only [List.mem_cons, exists_eq_or_imp] at refused
      have behind : item.Refused ∨ Reads (writtenRest depth rest ++ bracket :: text) none :=
        refused.imp_right (reads_none_writtenRest depth others closes)
      have item_reads := reads_none (depth + 1) decided (ends_writtenRest depth rest closes) behind
      simpa [writtenItems] using item_reads.newLine (depth + 1)

/-- A field is refused with its value. -/
theorem reads_none_field (depth : Nat) {key value : Datum} (legible : key.Legible)
    (decided : value.Legible ∨ value.Refused) (ends : Ends text)
    (refused : value.Refused ∨ Reads text none) :
    Reads (newLine depth ++ (written depth key ++ ':' :: ' ' :: (written depth value ++ text)))
      none := by
  have value_reads := reads_none depth decided ends refused
  have colon_reads := (value_reads.blank ' ' rfl).mark ':' (by decide) (by decide) rfl
  exact (legible.writesTokens depth (.colon _) colon_reads).newLine depth

theorem reads_none_writtenFieldRest (depth : Nat) {fields : List (Datum × Datum)}
    (keys : ∀ field ∈ fields, field.1.Legible)
    (each : ∀ field ∈ fields, field.2.Legible ∨ field.2.Refused)
    (closes : isClosing bracket = true) (refused : ∃ field ∈ fields, field.2.Refused) :
    Reads (writtenFieldRest depth fields ++ bracket :: text) none := by
  induction fields with
  | nil => simp at refused
  | cons field rest ih =>
      obtain ⟨legible, others_legible⟩ := List.forall_mem_cons.mp keys
      obtain ⟨decided, others⟩ := List.forall_mem_cons.mp each
      simp only [List.mem_cons, exists_eq_or_imp] at refused
      have field_reads := reads_none_field (depth + 1) legible decided
        (ends_writtenFieldRest depth rest closes)
        (refused.imp_right (ih others_legible others))
      have comma_reads := field_reads.mark ',' (by decide) (by decide) rfl
      simpa [writtenFieldRest] using comma_reads

theorem reads_none_writtenFields (depth : Nat) {fields : List (Datum × Datum)}
    (keys : ∀ field ∈ fields, field.1.Legible)
    (each : ∀ field ∈ fields, field.2.Legible ∨ field.2.Refused)
    (closes : isClosing bracket = true) (refused : ∃ field ∈ fields, field.2.Refused) :
    Reads (writtenFields depth fields ++ bracket :: text) none := by
  cases fields with
  | nil => simp at refused
  | cons field rest =>
      obtain ⟨legible, others_legible⟩ := List.forall_mem_cons.mp keys
      obtain ⟨decided, others⟩ := List.forall_mem_cons.mp each
      simp only [List.mem_cons, exists_eq_or_imp] at refused
      have behind : field.2.Refused ∨ Reads (writtenFieldRest depth rest ++ bracket :: text) none :=
        refused.imp_right (reads_none_writtenFieldRest depth others_legible others closes)
      have field_reads := reads_none_field (depth + 1) legible decided
        (ends_writtenFieldRest depth rest closes) behind
      simpa [writtenFields] using field_reads

end Refusal

/-- What is refused in a datum is its atoms, and with one of them the whole. -/
theorem Formed.legible_or_refused {datum : Datum} (formed : datum.Formed) :
    datum.Legible ∨ datum.Refused := by
  induction formed with
  | atom scans => exact .inl (.atom scans)
  | refused refuses => exact .inr fun _ _ ends => .refused (refuses ends)
  | @list items _ each =>
      by_cases refused : ∃ item ∈ items, item.Refused
      · refine .inr fun depth text _ => ?_
        have items_read : Reads (writtenItems depth items ++ ']' :: text) none :=
          reads_none_writtenItems depth each (by decide) refused
        simpa [written] using items_read.mark '[' (by decide) (by decide) rfl
      · exact .inl (.list fun item member =>
          (each item member).resolve_right fun no => refused ⟨item, member, no⟩)
  | @tuple name items plain _ each =>
      by_cases refused : ∃ item ∈ items, item.Refused
      · refine .inr fun depth text _ => ?_
        have items_read : Reads (writtenItems depth items ++ ')' :: text) none :=
          reads_none_writtenItems depth each (by decide) refused
        cases name with
        | none => simpa [written, writtenName] using items_read.mark '(' (by decide) (by decide) rfl
        | some name => simpa [written, writtenName] using items_read.namedRound (plain name rfl)
      · exact .inl (.tuple plain fun item member =>
          (each item member).resolve_right fun no => refused ⟨item, member, no⟩)
  | @record name fields plain keys _ each =>
      by_cases refused : ∃ field ∈ fields, field.2.Refused
      · refine .inr fun depth text _ => ?_
        have fields_read : Reads (writtenFields depth fields ++ '\x7d' :: text) none :=
          reads_none_writtenFields depth keys each (by decide) refused
        cases name with
        | none => simpa [written] using fields_read.mark '\x7b' (by decide) (by decide) rfl
        | some name => simpa [written, writtenName] using fields_read.namedCurly (plain name rfl)
      · exact .inl (.record plain keys fun field member =>
          (each field member).resolve_right fun no => refused ⟨field, member, no⟩)

/-! ## Reading tokens -/

/-- A datum is read from its tokens. -/
def IsScanned (datum : Datum) : Prop :=
  ∀ (bound : Nat) (rest : List Token), datum.tokens.length ≤ bound →
    scan? bound (datum.tokens ++ rest) = some (datum, rest)

/-- The first token of a datum closes nothing. -/
theorem tokens_append_ne_closing (datum : Datum) (following : List Token) (bracket : Bracket)
    (rest : List Token) : datum.tokens ++ following ≠ .closing bracket :: rest := by
  cases datum <;> simp [tokens]

section Scanning

variable (bound : Nat) (rest : List Token)

/-- Items are read up to the bracket that closes them. -/
theorem scanItems?_itemTokens (bracket : Bracket) {items : List Datum}
    (each : ∀ item ∈ items, item.IsScanned) (enough : (itemTokens items).length < bound) :
    scanItems? bound bracket (itemTokens items ++ .closing bracket :: rest) =
      some (items, rest) := by
  induction items generalizing bound with
  | nil =>
      cases bound with
      | zero => simp at enough
      | succ bound => simp [itemTokens, scanItems?]
  | cons item others ih =>
      cases bound with
      | zero => simp at enough
      | succ bound =>
          obtain ⟨item_scans, others_scan⟩ := List.forall_mem_cons.mp each
          simp only [itemTokens, List.length_append] at enough
          have item_scanned (following : List Token) :
              scan? bound (item.tokens ++ following) = some (item, following) :=
            item_scans bound following (by omega)
          rw [itemTokens, List.append_assoc,
            scanItems?.eq_3 _ _ _ (tokens_append_ne_closing _ _), item_scanned]
          cases others with
          | nil => simp [restTokens]
          | cons second others =>
              have others_scanned := ih bound others_scan
                (by simp [restTokens] at enough; simp [itemTokens]; omega)
              simp only [itemTokens, List.append_assoc] at others_scanned
              simp [restTokens, others_scanned]

/-- Fields are read up to the brace that closes them. -/
theorem scanFields?_fieldTokens {fields : List (Datum × Datum)}
    (keys : ∀ field ∈ fields, field.1.IsScanned) (values : ∀ field ∈ fields, field.2.IsScanned)
    (enough : (fieldTokens fields).length < bound) :
    scanFields? bound (fieldTokens fields ++ .closing .curly :: rest) = some (fields, rest) := by
  induction fields generalizing bound with
  | nil =>
      cases bound with
      | zero => simp at enough
      | succ bound => simp [fieldTokens, scanFields?]
  | cons field others ih =>
      cases bound with
      | zero => simp at enough
      | succ bound =>
          obtain ⟨key, value⟩ := field
          obtain ⟨(key_scans : key.IsScanned), keys_scan⟩ := List.forall_mem_cons.mp keys
          obtain ⟨(value_scans : value.IsScanned), values_scan⟩ := List.forall_mem_cons.mp values
          simp only [fieldTokens, List.length_append, List.length_cons] at enough
          have key_scanned (following : List Token) :
              scan? bound (key.tokens ++ following) = some (key, following) :=
            key_scans bound following (by omega)
          have value_scanned (following : List Token) :
              scan? bound (value.tokens ++ following) = some (value, following) :=
            value_scans bound following (by omega)
          simp only [fieldTokens, List.append_assoc, List.cons_append]
          rw [scanFields?.eq_3 _ _ (tokens_append_ne_closing _ _ _), key_scanned]
          cases others with
          | nil => simp [fieldRestTokens, value_scanned]
          | cons second others =>
              have others_scanned := ih bound keys_scan values_scan
                (by simp [fieldRestTokens] at enough; simp [fieldTokens]; omega)
              simp only [fieldTokens, List.append_assoc, List.cons_append] at others_scanned
              simp [fieldRestTokens, value_scanned, others_scanned]

end Scanning

/-- Legible data are read from their tokens. -/
theorem Legible.isScanned {datum : Datum} (legible : datum.Legible) : datum.IsScanned := by
  induction legible with
  | atom =>
      intro bound rest enough
      cases bound with
      | zero => simp [Datum.tokens] at enough
      | succ bound => rfl
  | @list items _ each =>
      intro bound rest enough
      cases bound with
      | zero => simp [Datum.tokens] at enough
      | succ bound =>
          have within : (itemTokens items).length < bound := by
            simp [Datum.tokens] at enough
            omega
          have scanned := scanItems?_itemTokens bound rest .square each within
          simp [Datum.tokens, scan?, scanned]
  | @tuple name items _ _ each =>
      intro bound rest enough
      cases bound with
      | zero => simp [Datum.tokens] at enough
      | succ bound =>
          have within : (itemTokens items).length < bound := by
            simp [Datum.tokens] at enough
            omega
          have scanned := scanItems?_itemTokens bound rest .round each within
          simp [Datum.tokens, scan?, scanned]
  | @record name fields _ _ _ keys values =>
      intro bound rest enough
      cases bound with
      | zero => simp [Datum.tokens] at enough
      | succ bound =>
          have within : (fieldTokens fields).length < bound := by
            simp [Datum.tokens] at enough
            omega
          have scanned := scanFields?_fieldTokens bound rest keys values within
          simp [Datum.tokens, scan?, scanned]

/-! ## Reading texts -/

/-- Legible data are read from the text that is written for them. -/
theorem Legible.ofChars?_written {datum : Datum} (legible : datum.Legible) :
    ofChars? (written 0 datum) = some datum := by
  have tokens_eq : Token.ofChars? (written 0 datum) = some datum.tokens := by
    have reads := legible.writesTokens 0 .finish Token.reads_nil
    simp only [List.append_nil, Option.map_some] at reads
    exact reads _ (Nat.le_refl _)
  have scanned := legible.isScanned datum.tokens.length [] (Nat.le_refl _)
  rw [List.append_nil] at scanned
  rw [ofChars?, tokens_eq, Option.bind_some, ofTokens?, scanned]

/-- A datum is legible if the text that is written for it is that of any datum. -/
theorem Formed.legible {datum found : Datum} (formed : datum.Formed)
    (split : ofChars? (written 0 datum) = some found) : datum.Legible := by
  refine formed.legible_or_refused.resolve_right fun refused => ?_
  have reads := refused 0 .finish
  rw [List.append_nil] at reads
  have tokens_eq : Token.ofChars? (written 0 datum) = none := reads _ (Nat.le_refl _)
  simp [ofChars?, tokens_eq] at split

end Datum

end ScriptMachine
