import ScriptMachine.Proofs.Link.Stages
import ScriptMachine.Proofs.Machine.Inspection
import ScriptMachine.Proofs.Scope.Resolution

/-!
# Labels of linked programs

What the label table of a linked program holds, said of the program alone.  A label is
bound to the last instruction that marks it, whether or not a function declares it; and a
name is exported by the labels whose last function definition exports it, whether or not
they are marked.

An entry of a linked program therefore begins at the last mark of the label that it asks
for, or nowhere.
-/

namespace ScriptMachine

/-! ## The last of several items -/

/-- The last item of a list that is as asked for, and its position. -/
inductive LastAt {α : Type} (asked : α → Prop) : List α → Nat → α → Prop where
  | head {first : α} {rest : List α} (holds : asked first)
      (none_later : ∀ other ∈ rest, ¬asked other) : LastAt asked (first :: rest) 0 first
  | tail {first item : α} {rest : List α} {position : Nat}
      (last : LastAt asked rest position item) : LastAt asked (first :: rest) (position + 1) item

namespace LastAt

variable {α β : Type} {asked : α → Prop} {items : List α} {position : Nat} {item : α}

theorem holds (last : LastAt asked items position item) : asked item := by
  induction last with
  | head holds => exact holds
  | tail last ih => exact ih

theorem getElem?_eq (last : LastAt asked items position item) : items[position]? = some item := by
  induction last with
  | head => rfl
  | tail last ih => exact ih

theorem none_behind (last : LastAt asked items position item) {later : Nat} {other : α}
    (later_gt : position < later) (found : items[later]? = some other) : ¬asked other := by
  induction last generalizing later with
  | head holds none_later =>
      cases later with
      | zero => exact absurd later_gt (Nat.lt_irrefl 0)
      | succ later => exact none_later other (List.mem_of_getElem? found)
  | tail last ih =>
      cases later with
      | zero => exact absurd later_gt (Nat.not_lt_zero _)
      | succ later => exact ih (Nat.lt_of_succ_lt_succ later_gt) found

theorem of_getElem? (found : items[position]? = some item) (holds : asked item)
    (none_behind : ∀ later other, position < later → items[later]? = some other → ¬asked other) :
    LastAt asked items position item := by
  induction items generalizing position with
  | nil => cases found
  | cons first rest ih =>
      cases position with
      | zero =>
          rcases Option.some.inj found with rfl
          apply LastAt.head holds
          intro other member
          rcases List.mem_iff_getElem?.mp member with ⟨later, found⟩
          exact none_behind (later + 1) other (Nat.succ_pos later) found
      | succ position =>
          apply LastAt.tail
          apply ih found
          intro later other later_gt
          exact none_behind (later + 1) other (Nat.succ_lt_succ later_gt)

theorem lt_length (last : LastAt asked items position item) : position < items.length := by
  induction last with
  | head => exact Nat.succ_pos _
  | tail last ih => exact Nat.succ_lt_succ ih

/-- If there are items as asked for, one of them is the last. -/
theorem exists_of_mem (member : item ∈ items) (holds : asked item) :
    ∃ position last, LastAt asked items position last := by
  induction items generalizing item with
  | nil => cases member
  | cons first rest ih =>
      by_cases later : ∃ other ∈ rest, asked other
      · rcases later with ⟨other, other_mem, other_holds⟩
        rcases ih other_mem other_holds with ⟨position, last, lastAt⟩
        exact ⟨position + 1, last, .tail lastAt⟩
      · have none_later : ∀ other ∈ rest, ¬asked other :=
          fun other other_mem other_holds => later ⟨other, other_mem, other_holds⟩
        rcases List.mem_cons.mp member with rfl | inside
        · exact ⟨0, item, .head holds none_later⟩
        · exact absurd holds (none_later item inside)

theorem map {asked : β → Prop} {change : α → β}
    (last : LastAt (fun item => asked (change item)) items position item) :
    LastAt asked (items.map change) position (change item) := by
  induction last with
  | head holds none_later =>
      apply LastAt.head holds
      intro other member
      rcases List.mem_map.mp member with ⟨before, before_mem, rfl⟩
      exact none_later before before_mem
  | tail last ih => exact .tail ih

/-- Items before do not matter. -/
theorem append_left (front : List α) (last : LastAt asked items position item) :
    LastAt asked (front ++ items) (front.length + position) item := by
  induction front with
  | nil =>
      rw [List.length_nil, Nat.zero_add]
      exact last
  | cons first rest ih =>
      rw [List.length_cons, Nat.add_right_comm]
      exact .tail ih

/-- Items behind do not matter if none is as asked for. -/
theorem append_right {back : List α} (none_behind : ∀ other ∈ back, ¬asked other)
    (last : LastAt asked items position item) : LastAt asked (items ++ back) position item := by
  induction last with
  | head holds none_later =>
      apply LastAt.head holds
      intro other member
      rcases List.mem_append.mp member with inside | behind
      · exact none_later other inside
      · exact none_behind other behind
  | tail last ih => exact .tail ih

end LastAt

/-! ## What programs declare -/

/-- The instruction marks a label. -/
def Instruction.Marks (instruction : Instruction) (label : UInt64) : Prop :=
  instruction.opcode = .label ∧ instruction.operand 0 = .label label

instance (instruction : Instruction) (label : UInt64) : Decidable (instruction.Marks label) :=
  inferInstanceAs (Decidable (_ ∧ _))

/-- The instruction at an offset marks a label, and no later one does. -/
structure Program.LastMark (program : Program) (label : UInt64) (offset : Nat) : Prop where
  marked : ∃ instruction, program.instructions[offset]? = some instruction ∧
    instruction.Marks label
  last : ∀ later instruction, offset < later →
    program.instructions[later]? = some instruction → ¬instruction.Marks label

theorem Program.LastMark.offset_lt {program : Program} {label : UInt64} {offset : Nat}
    (mark : program.LastMark label offset) : offset < program.instructions.size := by
  obtain ⟨instruction, found, _⟩ := mark.marked
  exact (Array.getElem?_eq_some_iff.mp found).1

/-- The last definition of a label exports a name. -/
def Program.Declares (program : Program) (name : String) (label : UInt64) : Prop :=
  ∃ function, program.functions.reverse.find? (·.index = label) = some function ∧
    function.visibility = .exported ∧ function.name = name

/-- The label that an entry asks for: the least one that exports a name. -/
inductive Entry.Requests (program : Program) : Entry → UInt64 → Prop where
  | function {name : String} {label : UInt64} (declares : program.Declares name label)
      (least : ∀ other, program.Declares name other → label ≤ other) :
      Requests program (.function name) label
  | label {label : UInt64} : Requests program (.label label) label

/-- The index that an entry stands for. -/
def Scope.entryIndex? (scope : Scope) : Entry → Option Nat
  | .function name => scope.labels.resolve? name
  | .label label => some label.toNat

theorem Scope.bound_of_bind {scope : Scope} {index : Option Nat} {offset : Nat}
    (bound : (index.bind scope.labels.get?).bind Binding.target = some offset) :
    ∃ position, index = some position ∧
      (scope.labels.get? position).bind Binding.target = some offset := by
  obtain ⟨binding, slot_eq, target_eq⟩ := Option.bind_eq_some_iff.mp bound
  obtain ⟨position, index_eq, binding_eq⟩ := Option.bind_eq_some_iff.mp slot_eq
  exact ⟨position, index_eq, by rw [binding_eq, Option.bind_some, target_eq]⟩

/-- An entry is at the offset to which its index is bound. -/
theorem Scope.bound_of_entryOffset {scope : Scope} {entry : Entry} {offset : Nat}
    (entered : scope.entryOffset entry = .ok offset) :
    ∃ index, scope.entryIndex? entry = some index ∧
      (scope.labels.get? index).bind Binding.target = some offset := by
  apply bound_of_bind
  cases entry with
  | function name | label label =>
      simp only [entryOffset] at entered
      split at entered
      · rename_i bound
        obtain rfl := Except.ok.inj entered
        exact bound
      · cases entered

namespace Program

/-! ## Declared labels -/

/-- A label is declared by its last definition, and unmarked. -/
theorem get?_declareLabels (labels : Labels) (functions : List FunctionDefinition)
    (label : UInt64) :
    (declareLabels labels functions).get? label.toNat =
      match functions.reverse.find? (·.index = label) with
      | some function => some ⟨function.name, function.visibility, none⟩
      | none => labels.get? label.toNat := by
  induction functions generalizing labels with
  | nil => rfl
  | cons function rest ih =>
      have declared := ih (labels.set function.index.toNat
        ⟨function.name, function.visibility, none⟩)
      rw [List.reverse_cons, List.find?_append]
      unfold declareLabels at declared ⊢
      rw [List.foldl_cons, declared]
      cases rest.reverse.find? (·.index = label) with
      | some later => rfl
      | none =>
          by_cases same : function.index = label
          · simp [same]
          · have different : label.toNat ≠ function.index.toNat := by
              intro index_eq
              exact same (UInt64.toNat_inj.mp index_eq).symm
            simp [same, Table.get?_set_ne different]

theorem target_declareLabels (functions : List FunctionDefinition) (label : UInt64) :
    ((declareLabels .empty functions).get? label.toNat).bind Binding.target = none := by
  rw [get?_declareLabels]
  cases functions.reverse.find? (·.index = label) <;> rfl

/-- Only the indices of definitions are declared. -/
theorem exists_label_of_declareLabels (labels : Labels) (functions : List FunctionDefinition)
    {index : Nat} {binding : Binding Nat}
    (bound : (declareLabels labels functions).get? index = some binding) :
    labels.get? index = some binding ∨ ∃ label : UInt64, label.toNat = index := by
  induction functions generalizing labels with
  | nil => exact .inl bound
  | cons function rest ih =>
      rcases ih (labels.set function.index.toNat ⟨function.name, function.visibility, none⟩)
        bound with before | label
      · by_cases same : index = function.index.toNat
        · exact .inr ⟨function.index, same.symm⟩
        · rw [Table.get?_set_ne same] at before
          exact .inl before
      · exact .inr label

theorem exports_declareLabels_iff (program : Program) (name : String) (index : Nat) :
    (declareLabels .empty program.functions).Exports name index ↔
      ∃ label : UInt64, label.toNat = index ∧ program.Declares name label := by
  constructor
  · rintro ⟨binding, bound, exported, named⟩
    rcases exists_label_of_declareLabels _ _ bound with impossible | ⟨label, rfl⟩
    · simp at impossible
    · rw [get?_declareLabels] at bound
      apply Exists.intro label
      apply And.intro rfl
      cases found : program.functions.reverse.find? (·.index = label) with
      | none => simp [found] at bound
      | some function =>
          simp only [found, Option.some.injEq] at bound
          subst binding
          exact ⟨function, found, exported, named⟩
  · rintro ⟨label, rfl, function, found, exported, named⟩
    apply Exists.intro ⟨function.name, function.visibility, none⟩
    constructor
    · rw [get?_declareLabels, found]
    · exact ⟨exported, named⟩

/-! ## Marked labels -/

theorem target_markLabel (labels : Labels) (index offset other : Nat) :
    ((markLabel labels index offset).get? other).bind Binding.target =
      if other = index then some offset else (labels.get? other).bind Binding.target := by
  unfold markLabel
  by_cases same : other = index
  · subst same
    cases labels.get? other <;> simp [Binding.anonymous]
  · cases labels.get? index <;> simp [Table.get?_set_ne same, same]

/-- Marks do not change what is exported. -/
theorem exports_markLabel_iff (labels : Labels) (index offset other : Nat) (name : String) :
    (markLabel labels index offset).Exports name other ↔ labels.Exports name other := by
  unfold markLabel Table.Exports
  by_cases same : other = index
  · subst same
    cases labels.get? other <;> simp [Binding.anonymous]
  · cases labels.get? index <;> simp [Table.get?_set_ne same]

/-- The last of some instructions that marks a label, the first of which is at an offset. -/
def lastMark? (label : UInt64) (offset : Nat) : List Instruction → Option Nat
  | [] => none
  | instruction :: rest =>
      (lastMark? label (offset + 1) rest).or
        (if instruction.Marks label then some offset else none)

/-- Labels are marked where they are marked last. -/
theorem target_markLabels {labels marked : Labels} {offset : Nat}
    {instructions : List Instruction}
    (marks : markLabels labels offset instructions = (.ok (), marked)) (label : UInt64) :
    (marked.get? label.toNat).bind Binding.target =
      (lastMark? label offset instructions).or
        ((labels.get? label.toNat).bind Binding.target) := by
  induction instructions generalizing labels offset with
  | nil =>
      cases marks
      rfl
  | cons instruction rest ih =>
      unfold markLabels at marks
      split at marks
      · rename_i isLabel
        split at marks
        · rename_i index operand_eq
          rw [ih marks, lastMark?, target_markLabel, Option.or_assoc]
          congr 1
          by_cases same : label = index
          · subst same
            simp [Instruction.Marks, isLabel, operand_eq]
          · have different : label.toNat ≠ index.toNat := mt UInt64.toNat_inj.mp same
            simp [Instruction.Marks, operand_eq, different, Ne.symm same]
        · cases marks
      · rename_i notLabel
        have unmarked : ¬instruction.Marks label := fun isMark => notLabel isMark.1
        rw [ih marks, lastMark?, if_neg unmarked, Option.or_none]

theorem exports_markLabels_iff {labels marked : Labels} {offset : Nat}
    {instructions : List Instruction}
    (marks : markLabels labels offset instructions = (.ok (), marked)) (name : String)
    (index : Nat) : marked.Exports name index ↔ labels.Exports name index := by
  induction instructions generalizing labels offset with
  | nil =>
      cases marks
      rfl
  | cons instruction rest ih =>
      unfold markLabels at marks
      split at marks
      · split at marks
        · rw [ih marks, exports_markLabel_iff]
        · cases marks
      · exact ih marks

theorem lastMark?_eq_none_iff (label : UInt64) (offset : Nat) (instructions : List Instruction) :
    lastMark? label offset instructions = none ↔
      ∀ instruction ∈ instructions, ¬instruction.Marks label := by
  induction instructions generalizing offset with
  | nil => simp [lastMark?]
  | cons instruction rest ih =>
      rw [lastMark?, Option.or_eq_none_iff, ih, List.forall_mem_cons, and_comm]
      simp

theorem lastMark?_eq_some_iff_lastAt {label : UInt64} {offset found : Nat}
    {instructions : List Instruction} :
    lastMark? label offset instructions = some found ↔
      ∃ position instruction, found = offset + position ∧
        LastAt (·.Marks label) instructions position instruction := by
  induction instructions generalizing offset with
  | nil =>
      constructor
      · intro marked
        cases marked
      · rintro ⟨_, _, _, last⟩
        cases last
  | cons first rest ih =>
      rw [lastMark?]
      constructor
      · intro marked
        cases behind : lastMark? label (offset + 1) rest with
        | some other =>
            rw [behind, Option.some_or, Option.some.injEq] at marked
            subst marked
            rcases ih.mp behind with ⟨position, instruction, rfl, last⟩
            exact ⟨position + 1, instruction, Nat.succ_add_eq_add_succ offset position, .tail last⟩
        | none =>
            rw [behind, Option.none_or, Option.ite_none_right_eq_some, Option.some.injEq] at marked
            rcases marked with ⟨marks, rfl⟩
            exact ⟨0, first, rfl, .head marks ((lastMark?_eq_none_iff label _ rest).mp behind)⟩
      · rintro ⟨position, instruction, rfl, last⟩
        cases last with
        | head marks unmarked =>
            rw [(lastMark?_eq_none_iff label _ rest).mpr unmarked, Option.none_or, if_pos marks]
            rfl
        | @tail _ _ _ position last =>
            have found := (Nat.succ_add_eq_add_succ offset position).symm
            rw [ih.mpr ⟨position, instruction, found, last⟩, Option.some_or]

theorem lastMark_iff_lastAt {program : Program} {label : UInt64} {offset : Nat} :
    program.LastMark label offset ↔
      ∃ instruction, LastAt (·.Marks label) program.instructions.toList offset instruction := by
  constructor
  · rintro ⟨⟨instruction, found, marks⟩, last⟩
    simp only [← Array.getElem?_toList] at found last
    exact ⟨instruction, .of_getElem? found marks last⟩
  · rintro ⟨instruction, last⟩
    constructor
    · exact ⟨instruction, Array.getElem?_toList.symm.trans last.getElem?_eq, last.holds⟩
    · intro later other later_gt found
      exact last.none_behind later_gt (Array.getElem?_toList.trans found)

theorem lastMark?_eq_some_iff (program : Program) (label : UInt64) (offset : Nat) :
    lastMark? label 0 program.instructions.toList = some offset ↔
      program.LastMark label offset := by
  rw [lastMark?_eq_some_iff_lastAt, lastMark_iff_lastAt]
  constructor
  · rintro ⟨position, instruction, offset_eq, last⟩
    rw [offset_eq, Nat.zero_add]
    exact ⟨instruction, last⟩
  · rintro ⟨instruction, last⟩
    exact ⟨offset, instruction, (Nat.zero_add offset).symm, last⟩

/-! ## Linked labels -/

variable {program : Program} {host : Host} {arguments : Option (List Value)} {fresh : Bool}
  {shared : SharedState} {declared linked : Context}

/-- What a program's declarations leave when they succeed. -/
theorem markLabels_of_declare (declares : program.declare shared = (.ok (), declared)) :
    markLabels (declareLabels .empty program.functions) 0 program.instructions.toList =
      (.ok (), declared.scope.labels) := by
  simp only [declare, Prod.mk.injEq] at declares
  obtain ⟨marked, rfl⟩ := declares
  exact Prod.ext marked rfl

theorem markLabels_of_link (links : program.link host arguments fresh shared = (.ok (), linked)) :
    markLabels (declareLabels .empty program.functions) 0 program.instructions.toList =
      (.ok (), linked.scope.labels) := by
  cases links_of_link links with
  | linked imports declares =>
      have marked := markLabels_of_declare declares
      exact marked

/-- A label of a linked program is bound to its last mark. -/
theorem labelOffset?_of_link (links : program.link host arguments fresh shared = (.ok (), linked))
    (label : UInt64) (offset : Nat) :
    linked.scope.labelOffset? label = some offset ↔ program.LastMark label offset := by
  have targets := target_markLabels (markLabels_of_link links) label
  rw [target_declareLabels, Option.or_none] at targets
  rw [Scope.labelOffset?, targets, lastMark?_eq_some_iff]

/-- A linked program begins at the last mark of the label that is asked for. -/
theorem entryOffset_of_link (links : program.link host arguments fresh shared = (.ok (), linked))
    {entry : Entry} {offset : Nat} (entered : linked.scope.entryOffset entry = .ok offset) :
    ∃ label, entry.Requests program label ∧ program.LastMark label offset := by
  have exports_iff := exports_markLabels_iff (markLabels_of_link links)
  obtain ⟨index, index_eq, bound⟩ := Scope.bound_of_entryOffset entered
  cases entry with
  | label label =>
      obtain rfl := Option.some.inj index_eq
      exact ⟨label, .label, (labelOffset?_of_link links label offset).mp bound⟩
  | function name =>
      obtain ⟨exported, least⟩ := (Table.resolve?_eq_some_iff _ name index).mp index_eq
      obtain ⟨label, rfl, declares⟩ :=
        (exports_declareLabels_iff program name index).mp ((exports_iff name index).mp exported)
      have isLeast : ∀ other, program.Declares name other → label ≤ other := by
        intro other other_declares
        apply UInt64.le_iff_toNat_le.mpr
        apply least
        exact (exports_iff name other.toNat).mpr
          ((exports_declareLabels_iff program name _).mpr ⟨other, rfl, other_declares⟩)
      exact ⟨label, .function declares isLeast,
        (labelOffset?_of_link links label offset).mp bound⟩

end Program

end ScriptMachine
