import ScriptMachine.Proofs.Datum.Numerals
import ScriptMachine.Proofs.Storage.Laws

/-!
# The notation obeys the laws of formats

The form of every value is legible, but for numbers that are refused; so a value that is read back
has a legible form, and is read from its form wherever this stands.  From this it follows that
lists, options, records and choices are read back if their parts are.
-/

namespace ScriptMachine

open Datum (Formed Legible)

/-! ## Forms are formed -/

namespace Datum

theorem Legible.formed {datum : Datum} (legible : datum.Legible) : datum.Formed := by
  induction legible with
  | atom scans => exact .atom scans
  | list _ each => exact .list each
  | tuple plain _ each => exact .tuple plain each
  | record plain keys _ _ each => exact .record plain keys each

theorem legible_word {name : String} (plain : isPlainName name = true) : (word name).Legible :=
  .atom (Token.scans_name plain)

theorem legible_text (content : String) : Legible (.atom (.text content)) :=
  .atom (Token.scans_text content)

theorem legible_octet (value : UInt8) : (natural value.toNat).Legible :=
  legible_natural (Nat.lt_trans value.toNat_lt_size (by decide))

theorem legible_tagged {name : String} {content : Datum} (plain : isPlainName name = true)
    (legible : content.Legible) : (tagged name content).Legible :=
  .tuple (by rintro _ ⟨⟩; exact plain) (by simpa using legible)

theorem formed_tagged {name : String} {content : Datum} (plain : isPlainName name = true)
    (formed : content.Formed) : (tagged name content).Formed :=
  .tuple (by rintro _ ⟨⟩; exact plain) (by simpa using formed)

end Datum

mutual

theorem Schema.formed_datum : ∀ {α : Type} (schema : Schema α) (value : α),
    (schema.datum value).Formed
  | _, .word64, value => (Datum.legible_natural value.toNat_lt_size).formed
  | _, .octet, value => (Datum.legible_octet value).formed
  | _, .signed64, value => (Datum.legible_signed value).formed
  | _, .number, value => Datum.formed_number value
  | _, .text, value => (Datum.legible_text value).formed
  | _, .list item, values => by
      refine .list fun datum member => ?_
      obtain ⟨value, -, rfl⟩ := List.mem_map.mp member
      exact item.formed_datum value
  | _, .option _, none => (Datum.legible_word (by decide)).formed
  | _, .option content, some value => Datum.formed_tagged (by decide) (content.formed_datum value)
  | _, .record name fields parts _, value => by
      refine .record (by rintro _ ⟨⟩; exact name.isPlain) ?_ ?_ <;> intro field member <;>
        obtain ⟨entry, listed, rfl⟩ := List.mem_map.mp member
      · exact Datum.legible_word (fields.formed_entries (parts value) entry listed).1
      · exact (fields.formed_entries (parts value) entry listed).2
  | _, .choice variants, value => variants.formed_datum value

theorem Fields.formed_entries : ∀ {γ : Type} (fields : Fields γ) (parts : γ),
    ∀ entry ∈ fields.entries parts, isPlainName entry.1 = true ∧ entry.2.Formed
  | _, .done, _, _, member => by cases member
  | _, .field name _ content rest, (value, others), entry, member => by
      rcases List.mem_cons.mp member with rfl | later
      · exact ⟨name.isPlain, content.formed_datum value⟩
      · exact rest.formed_entries others entry later

theorem Variants.formed_datum : ∀ {α : Type} (variants : Variants α) (value : α),
    (variants.datum value).Formed
  | _, .done, _ => .tuple (by simp) (by simp)
  | _, @Variants.unit _ _ name single rest, value => by
      rw [Variants.datum]
      split
      · exact (Datum.legible_word name.isPlain).formed
      · exact rest.formed_datum value
  | _, .marked name content _ content? rest, value => by
      rw [Variants.datum]
      split
      · exact Datum.formed_tagged name.isPlain (content.formed_datum _)
      · exact rest.formed_datum value

end

/-! ## Reading inside brackets -/

/-- Inside the brackets of a name, more is read as a value. -/
theorem Variants.read?_inside : ∀ {α : Type} (variants : Variants α) {datum : Datum} {value : α},
    variants.read? false datum = some value → variants.read? true datum = some value
  | _, .done, _, _, read => read
  | _, @Variants.unit _ _ name single rest, datum, value, read => by
      rw [Variants.read?] at read ⊢
      split at read
      · rw [if_pos ‹_›]
        exact read
      · have outside : rest.read? false datum = some value := by simpa using read
        rw [if_neg ‹_›, rest.read?_inside outside, Option.some_or]
  | _, .marked name content mark content? rest, datum, value, read => by
      rw [Variants.read?] at read ⊢
      cases inner : datum.content? name.text with
      | some inner =>
          simp only [inner] at read ⊢
          exact read
      | none =>
          simp only [inner] at read ⊢
          exact rest.read?_inside read

theorem Schema.read?_inside {α : Type} (schema : Schema α) {datum : Datum} {value : α}
    (read : schema.read? false datum = some value) : schema.read? true datum = some value := by
  cases schema with
  | choice variants => exact variants.read?_inside read
  | _ => exact read

/-! ## Values that are read back -/

namespace Datum

/-- A datum is legible and is read as a value. -/
structure Stores {α : Type} (schema : Schema α) (datum : Datum) (value : α) : Prop where
  legible : datum.Legible
  read_eq : schema.read? false datum = some value

theorem read_eq_ok_iff {α : Type} {schema : Schema α} {text : String} {value : α} :
    format.read schema text = .ok value ↔
      (ofChars? text.toList).bind (schema.read? false) = some value := by
  cases found : (ofChars? text.toList).bind (schema.read? false) <;> simp [format, found]

/-- A value is read back if and only if its form stores it. -/
theorem readsBack_iff {α : Type} {schema : Schema α} {value : α} :
    format.ReadsBack schema value ↔ Stores schema (schema.datum value) value := by
  have written_eq : (format.write schema value).toList = written 0 (schema.datum value) :=
    String.toList_ofList
  rw [DataFormat.ReadsBack, read_eq_ok_iff, written_eq]
  constructor
  · intro reads
    obtain ⟨datum, datum_eq, datum_read⟩ := Option.bind_eq_some_iff.mp reads
    have legible := (schema.formed_datum value).legible datum_eq
    obtain rfl := Option.some.inj (legible.ofChars?_written.symm.trans datum_eq)
    exact ⟨legible, datum_read⟩
  · intro stores
    rw [stores.legible.ofChars?_written, Option.bind_some, stores.read_eq]

/-- The member-by-member reading of what was formed member by member. -/
theorem mapM_map_eq_some {α β : Type} {form : α → β} {read : β → Option α} {values : List α}
    (each : ∀ value ∈ values, read (form value) = some value) :
    (values.map form).mapM read = some values := by
  induction values with
  | nil => rfl
  | cons value rest ih =>
      obtain ⟨value_eq, rest_eq⟩ := List.forall_mem_cons.mp each
      simp [value_eq, ih rest_eq]

/-! ### Records -/

section Records

variable {name : String} {entries : List (String × Datum)}

/-- The fields of a record are read with the names and in the order in which they were written. -/
theorem fieldsOf?_recordOf : (recordOf name entries).fieldsOf? name = some entries := by
  rw [recordOf, fieldsOf?, if_pos (.inr rfl)]
  exact mapM_map_eq_some fun _ _ => rfl

theorem legible_recordOf (plain : isPlainName name = true)
    (legible : ∀ entry ∈ entries, isPlainName entry.1 = true ∧ entry.2.Legible) :
    (recordOf name entries).Legible := by
  refine .record (by rintro _ ⟨⟩; exact plain) ?_ ?_ <;> intro field member <;>
    obtain ⟨entry, listed, rfl⟩ := List.mem_map.mp member
  · exact legible_word (legible entry listed).1
  · exact (legible entry listed).2

/-- Where names differ, there is one entry under each. -/
theorem filter_eq_singleton (distinct : (entries.map Prod.fst).Nodup) {entry : String × Datum}
    (listed : entry ∈ entries) :
    (entries.filter fun other => other.1 = entry.1) = [entry] := by
  induction entries with
  | nil => cases listed
  | cons first rest ih =>
      obtain ⟨fresh, distinct⟩ := List.nodup_cons.mp distinct
      rcases List.mem_cons.mp listed with rfl | later
      · have others : (rest.filter fun other => other.1 = entry.1) = [] := by
          refine List.filter_eq_nil_iff.mpr fun other member => ?_
          have different : other.1 ≠ entry.1 := fun same =>
            fresh (same ▸ List.mem_map_of_mem member)
          simpa using different
        rw [List.filter_cons_of_pos (by simp), others]
      · have different : first.1 ≠ entry.1 := fun same =>
          fresh (same ▸ List.mem_map_of_mem later)
        rw [List.filter_cons_of_neg (by simpa using different), ih distinct later]

end Records

end Datum

theorem Fields.names_entries : ∀ {γ : Type} (fields : Fields γ) (parts : γ),
    (fields.entries parts).map Prod.fst = fields.names
  | _, .done, _ => rfl
  | _, .field name _ _ rest, (_, others) =>
      congrArg (name.text :: ·) (rest.names_entries others)

open DataFormat (ReadsFields ReadsVariant)

/-- The values of fields are read from any entries among which theirs are the only ones under their
names. -/
theorem Fields.stores_entries : ∀ {γ : Type} (fields : Fields γ) (parts : γ),
    ReadsFields Datum.format fields parts →
    (∀ entry ∈ fields.entries parts, entry.2.Legible) ∧
    ∀ found : List (String × Datum),
      (∀ entry ∈ fields.entries parts,
        (found.filter fun other => other.1 = entry.1) = [entry]) →
      fields.read? found = some parts
  | _, .done, (), _ => ⟨by simp [entries], fun _ _ => rfl⟩
  | _, .field name absent content rest, (value, others), each => by
      obtain ⟨reads, readsOthers⟩ := each
      have stores := Datum.readsBack_iff.mp reads
      obtain ⟨legible, others_read⟩ := rest.stores_entries others readsOthers
      refine ⟨List.forall_mem_cons.mpr ⟨stores.legible, legible⟩, fun found single => ?_⟩
      obtain ⟨first_single, others_single⟩ := List.forall_mem_cons.mp single
      simp [read?, Datum.fieldOf?, first_single, stores.read_eq, others_read found others_single]

/-! ### Choices -/

/-- A datum has a name, with or without a content. -/
def Datum.IsNamed (name : String) (datum : Datum) : Prop :=
  datum = .word name ∨ ∃ content, datum = .tagged name content

/-- A datum with one of some names is not what another name says, with or without a content. -/
theorem Datum.IsNamed.ne {name : String} {names : List String} {datum : Datum}
    (fresh : name ∉ names) (named : ∃ other ∈ names, datum.IsNamed other) :
    datum.isUnit name = false ∧ datum.content? name = none := by
  obtain ⟨other, listed, named⟩ := named
  have different : other ≠ name := by
    rintro rfl
    exact fresh listed
  rcases named with rfl | ⟨content, rfl⟩
  · simp [isUnit, word, word?, content?, different]
  · simp [isUnit, tagged, word?, content?, different]

/-- What the first variant that fits makes of a value is read by this variant. -/
theorem Variants.stores_datum : ∀ {α : Type} (variants : Variants α) (value : α),
    variants.names.Nodup → ReadsVariant Datum.format variants value →
    (∃ name ∈ variants.names, (variants.datum value).IsNamed name) ∧
      (variants.datum value).Legible ∧ variants.read? false (variants.datum value) = some value
  | _, @Variants.unit _ _ name single rest, value, distinct, reads => by
      obtain ⟨fresh, distinct⟩ := List.nodup_cons.mp distinct
      by_cases same : value = single
      · have datum_eq : datum (.unit name single rest) value = .word name.text := if_pos same
        rw [datum_eq]
        refine ⟨⟨name.text, List.mem_cons_self, .inl rfl⟩, Datum.legible_word name.isPlain, ?_⟩
        simp [read?, Datum.isUnit, Datum.word, Datum.word?, same]
      · have datum_eq : datum (.unit name single rest) value = rest.datum value := if_neg same
        obtain ⟨named, legible, read⟩ :=
          rest.stores_datum value distinct (reads.resolve_left same)
        rw [datum_eq]
        refine ⟨named.imp fun _ => And.imp_left (List.mem_cons_of_mem _), legible, ?_⟩
        simp [read?, (Datum.IsNamed.ne fresh named).1, read]
  | _, .marked name content mark content? rest, value, distinct, reads => by
      obtain ⟨fresh, distinct⟩ := List.nodup_cons.mp distinct
      cases fits : content? value with
      | some inner =>
          obtain ⟨mark_eq, inner_reads⟩ : mark inner = value ∧
              Datum.format.ReadsBack content inner := by
            simpa [ReadsVariant, fits] using reads
          have stores := Datum.readsBack_iff.mp inner_reads
          have datum_eq : datum (.marked name content mark content? rest) value =
              .tagged name.text (content.datum inner) := by
            simp [datum, fits]
          rw [datum_eq]
          refine ⟨⟨name.text, List.mem_cons_self, .inr ⟨_, rfl⟩⟩,
            Datum.legible_tagged name.isPlain stores.legible, ?_⟩
          simp [read?, Datum.content?, Datum.tagged, content.read?_inside stores.read_eq, mark_eq]
      | none =>
          have datum_eq : datum (.marked name content mark content? rest) value =
              rest.datum value := by
            simp [datum, fits]
          obtain ⟨named, legible, read⟩ :=
            rest.stores_datum value distinct (by simpa [ReadsVariant, fits] using reads)
          rw [datum_eq]
          refine ⟨named.imp fun _ => And.imp_left (List.mem_cons_of_mem _), legible, ?_⟩
          simp [read?, (Datum.IsNamed.ne fresh named).2, read]

/-! ## The laws -/

namespace Datum

/-- The notation obeys the laws of formats. -/
theorem lawful_format : format.Lawful where
  word64 value := readsBack_iff.mpr ⟨legible_natural value.toNat_lt_size, word64?_natural value⟩
  octet value := readsBack_iff.mpr ⟨legible_octet value, octet?_natural value⟩
  signed64 value := readsBack_iff.mpr ⟨legible_signed value, signed64?_toString value⟩
  text value := readsBack_iff.mpr ⟨legible_text value, rfl⟩
  list each := by
    have stores := fun value member => readsBack_iff.mp (each value member)
    refine readsBack_iff.mpr ⟨.list fun datum member => ?_, ?_⟩
    · obtain ⟨value, listed, rfl⟩ := List.mem_map.mp member
      exact (stores value listed).legible
    · exact mapM_map_eq_some fun value member => (stores value member).read_eq
  absent content := readsBack_iff.mpr ⟨legible_word (by decide), rfl⟩
  present reads := by
    have stores := readsBack_iff.mp reads
    refine readsBack_iff.mpr ⟨legible_tagged (by decide) stores.legible, ?_⟩
    exact congrArg (Option.map some) stores.read_eq
  record {_ _ name fields parts _ value} distinct whole_eq reads := by
    obtain ⟨legible, read⟩ := fields.stores_entries (parts value) reads
    have names := fields.formed_entries (parts value)
    rw [← fields.names_entries (parts value)] at distinct
    have fields_read := read _ fun entry listed => filter_eq_singleton distinct listed
    refine readsBack_iff.mpr ⟨legible_recordOf name.isPlain fun entry listed =>
      ⟨(names entry listed).1, legible entry listed⟩, ?_⟩
    simp [Schema.read?, Schema.datum, fieldsOf?_recordOf, fields_read, whole_eq]
  choice distinct reads := by
    obtain ⟨-, legible, read⟩ := Variants.stores_datum _ _ distinct reads
    exact readsBack_iff.mpr ⟨legible, read⟩

end Datum

end ScriptMachine
