import ScriptMachine.Proofs.Machine.Performance

/-!
# Equality of operands

Two operands that name cells are equal if their cells are the same or hold equal values, and null is
equal to null.  Values alone are compared by a relation that is not reflexive: `nan`, lists and
objects equal nothing.  It is symmetric and transitive, and identity of cells makes up for the rest,
so that operands which name cells are compared by an equivalence.

A comparison reads cells, and reading pads memory.  Padding changes no answer, so the equivalence is
the same whatever was compared before.  That operands can be exchanged is true of all kinds of them:
memory is padded for both in the end, and the order does not show.
-/

namespace ScriptMachine

/-! ## Equality of values -/

namespace Binary64

theorem equal_iff {left right : Binary64} :
    left.equal right = true ↔
      ∃ position, left.position? = some position ∧ right.position? = some position := by
  unfold equal
  cases left.position? with
  | none => simp
  | some leftPosition =>
      cases right.position? with
      | none => simp
      | some rightPosition =>
          simp only [beq_iff_eq, Option.some.injEq, exists_eq_left']
          exact eq_comm

theorem equal_comm (left right : Binary64) : left.equal right = right.equal left := by
  rw [Bool.eq_iff_iff, equal_iff, equal_iff]
  simp only [and_comm]

theorem equal_trans {left middle right : Binary64} (first : left.equal middle = true)
    (second : middle.equal right = true) : left.equal right = true := by
  rcases equal_iff.mp first with ⟨position, left_eq, middle_eq⟩
  rcases equal_iff.mp second with ⟨other, middle_eq', right_eq⟩
  cases middle_eq.symm.trans middle_eq'
  exact equal_iff.mpr ⟨position, left_eq, right_eq⟩

end Binary64

theorem Literal.equal_comm (left right : Literal) : left.equal right = right.equal left := by
  cases left <;> cases right <;> simp only [equal, Binary64.equal_comm, BEq.comm]

namespace Value

/-- The number that a value of a numeric kind is. -/
def amount? : Value → Option Binary64
  | .integer value => some (.ofInt value.toInt)
  | .number value => some value
  | _ => Option.none

/-- Equal values are the same text or equal as numbers. -/
theorem equal_iff {left right : Value} :
    left.equal right = true ↔
      (∃ text, left = .text text ∧ right = .text text) ∨
        ∃ leftAmount rightAmount, left.amount? = some leftAmount ∧
          right.amount? = some rightAmount ∧ leftAmount.equal rightAmount = true := by
  cases left with
  | text leftText =>
      cases right with
      | text rightText =>
          simp only [equal, beq_iff_eq]
          constructor
          · rintro rfl
            exact .inl ⟨leftText, rfl, rfl⟩
          · rintro (⟨_, ⟨⟩, ⟨⟩⟩ | ⟨_, _, ⟨⟩, _⟩)
            rfl
      | _ => simp [equal, amount?]
  | _ => cases right <;> simp [equal, amount?]

theorem equal_comm (left right : Value) : left.equal right = right.equal left := by
  cases left <;> cases right <;> simp only [equal, Binary64.equal_comm, BEq.comm]

theorem equal_trans {left middle right : Value} (first : left.equal middle = true)
    (second : middle.equal right = true) : left.equal right = true := by
  rcases equal_iff.mp first with ⟨text, rfl, rfl⟩ | ⟨leftAmount, amount, left_eq, middle_eq, first⟩
  · rcases equal_iff.mp second with ⟨_, ⟨⟩, rfl⟩ | ⟨_, _, no_amount, -⟩
    · exact equal_iff.mpr (.inl ⟨text, rfl, rfl⟩)
    · cases no_amount
  · rcases equal_iff.mp second with ⟨_, rfl, -⟩ | ⟨_, rightAmount, middle_eq', right_eq, second⟩
    · cases middle_eq
    · cases middle_eq.symm.trans middle_eq'
      have equal := Binary64.equal_trans first second
      exact equal_iff.mpr (.inr ⟨leftAmount, rightAmount, left_eq, right_eq, equal⟩)

end Value

theorem Instruction.immediatesEqual_comm (left right : Value) :
    immediatesEqual left right = immediatesEqual right left := by
  unfold immediatesEqual
  rw [Bool.and_comm]
  split
  · cases left.toDouble <;> cases right.toDouble <;> simp only [Binary64.equal_comm]
  · cases left.toText <;> cases right.toText <;> simp only [BEq.comm]

/-! ## Equality of cells -/

namespace Memory

/-- A memory is its cells and its lists. -/
theorem eq_of_lookup_eq {left right : Memory} (size_eq : left.size = right.size)
    (lookup_eq : ∀ address, left.lookup address = right.lookup address)
    (lists_eq : left.lists = right.lists) : left = right := by
  have cells_eq : left.cells = right.cells := by
    apply Array.ext size_eq
    intro index inside inside'
    rcases Nat.eq_zero_or_pos index with rfl | positive
    · have null := left.null_cell.trans right.null_cell.symm
      rw [Array.getElem?_eq_getElem inside, Array.getElem?_eq_getElem inside'] at null
      exact Option.some.inj null
    · have found := lookup_eq ⟨index, positive⟩
      simp only [lookup, Array.getElem?_eq_getElem inside,
        Array.getElem?_eq_getElem inside'] at found
      exact found
  cases left
  cases right
  cases cells_eq
  cases lists_eq
  rfl

/-- Padding is told by the size that it leads to. -/
theorem PaddedTo.eq_of_size_eq {before left right : Memory} (leftPadded : before.PaddedTo left)
    (rightPadded : before.PaddedTo right) (size_eq : left.size = right.size) : left = right :=
  eq_of_lookup_eq size_eq
    (fun address => (leftPadded.lookup_eq address).trans (rightPadded.lookup_eq address).symm)
    (leftPadded.lists_eq.trans rightPadded.lists_eq.symm)

theorem extend_comm (memory : Memory) (left right : Address) :
    (memory.extend left).extend right = (memory.extend right).extend left := by
  apply PaddedTo.eq_of_size_eq
  · exact (paddedTo_extend memory left).trans (paddedTo_extend _ right)
  · exact (paddedTo_extend memory right).trans (paddedTo_extend _ left)
  · simp only [size_extend]
    omega

theorem extendSlot_comm (memory : Memory) (left right : Option Address) :
    (memory.extendSlot left).extendSlot right = (memory.extendSlot right).extendSlot left := by
  cases left with
  | none => rfl
  | some left =>
      cases right with
      | none => rfl
      | some right => exact extend_comm memory left right

/-- Two cells, each of which may be null, are the same or hold equal values. -/
inductive CellsEqual (memory : Memory) : Option Address → Option Address → Prop where
  | same (cell : Option Address) : CellsEqual memory cell cell
  | values {left right : Address}
      (equal : (memory.lookup left).equal (memory.lookup right) = true) :
      CellsEqual memory (some left) (some right)

theorem cellsEqual_equivalence (memory : Memory) : Equivalence memory.CellsEqual where
  refl := .same
  symm := by
    intro left right cellsEqual
    cases cellsEqual with
    | same => exact .same _
    | values equal =>
        rw [Value.equal_comm] at equal
        exact .values equal
  trans := by
    intro left middle right first second
    cases first with
    | same => exact second
    | values equal =>
        cases second with
        | same => exact .values equal
        | values equal' => exact .values (Value.equal_trans equal equal')

/-- Padding changes nothing about cells. -/
theorem PaddedTo.cellsEqual_iff {before after : Memory} (padded : before.PaddedTo after)
    {left right : Option Address} :
    after.CellsEqual left right ↔ before.CellsEqual left right := by
  constructor
  · rintro (_ | equal)
    · exact .same _
    · rw [padded.lookup_eq, padded.lookup_eq] at equal
      exact .values equal
  · rintro (_ | equal)
    · exact .same _
    · rw [← padded.lookup_eq, ← padded.lookup_eq] at equal
      exact .values equal

end Memory

/-! ## Questions -/

/-- The answer to a question and the context that it leaves. -/
abbrev Answer := Except Fault Bool × Context

namespace Answer

/-- Two questions are refused alike, or have one answer, and leave the same context. -/
def Agrees (left right : Answer) : Prop :=
  (∀ equal, left.1 = .ok equal ↔ right.1 = .ok equal) ∧ left.2 = right.2

theorem agrees_of_eq {left right : Answer} (eq : left = right) : left.Agrees right := by
  rw [eq]
  exact ⟨fun _ => Iff.rfl, rfl⟩

/-- The answer to a question about two things, each of which may be refused. -/
def ofBoth {α : Type} (context : Context) (compare : α → α → Bool × Context) :
    Except Fault α → Except Fault α → Answer
  | .ok left, .ok right => (.ok (compare left right).1, (compare left right).2)
  | .error cause, _ => (.error cause, context)
  | .ok _, .error cause => (.error cause, context)

theorem ofBoth_agrees {α : Type} {context : Context} {compare : α → α → Bool × Context}
    (comm : ∀ left right, compare left right = compare right left) (left right : Except Fault α) :
    (ofBoth context compare left right).Agrees (ofBoth context compare right left) := by
  cases left with
  | ok =>
      cases right with
      | ok => exact agrees_of_eq (by simp only [ofBoth, comm])
      | error => exact agrees_of_eq rfl
  | error =>
      cases right with
      | ok => exact agrees_of_eq rfl
      | error => exact ⟨fun equal => by simp [ofBoth], rfl⟩

end Answer

namespace Operand

/-- The operands that name a cell or null: nothing, the variables that are bound, and raw
addresses. -/
def IsAddressable (scope : Scope) : Operand → Prop
  | .none | .rawAddress _ => True
  | .variable index => (scope.vars.get? index.toNat).isSome = true
  | .literal _ | .register _ | .label _ => False

/-- Asking an operand for its cell changes nothing. -/
theorem snd_run_address (operand : Operand) (context : Context) :
    (operand.address.run context).2 = context := by
  cases operand with
  | «variable» index =>
      rw [address, run_variableAddress]
      split <;> rfl
  | _ => rfl

theorem run_address_of_isAddressable {operand : Operand} {context : Context}
    (addressable : operand.IsAddressable context.scope) :
    operand.address.run context = (.ok (operand.cell? context.scope), context) := by
  cases operand with
  | none | rawAddress => rfl
  | «variable» index =>
      rcases Option.isSome_iff_exists.mp addressable with ⟨binding, bound⟩
      rw [address, run_variableAddress, cell?, bound]
      rfl
  | literal | register | label => cases addressable

theorem cell?_of_evaluate {context : Context} {operand : Operand} {cause : Fault}
    (refused : operand.evaluate context = .error cause) :
    operand.cell? context.scope = Option.none := by
  cases operand with
  | none | literal | register | label => rfl
  | rawAddress => cases refused
  | «variable» index =>
      simp only [evaluate] at refused
      split at refused
      · cases refused
      · rename_i unbound
        rw [cell?, unbound]
        rfl

theorem isImmediate_of_isAddressable {scope : Scope} {operand : Operand}
    (addressable : operand.IsAddressable scope) : Instruction.isImmediate operand = false := by
  cases operand with
  | literal | register => cases addressable
  | _ => rfl

end Operand

namespace Instruction

variable (context : Context) (left right : Operand)

/-! ### Questions about cells -/

/-- The answer for two cells, and the context after both were read if that was necessary. -/
def compareCells : Option Address → Option Address → Bool × Context
  | none, none => (true, context)
  | some left, some right =>
      if left = right then (true, context)
      else
        ((context.shared.memory.lookup left).equal (context.shared.memory.lookup right),
          context.withMemory ((context.shared.memory.extend left).extend right))
  | _, _ => (false, context)

theorem compareCells_comm (left right : Option Address) :
    compareCells context left right = compareCells context right left := by
  cases left with
  | none => cases right <;> rfl
  | some left =>
      cases right with
      | none => rfl
      | some right =>
          simp only [compareCells, eq_comm, Memory.extend_comm _ left right,
            Value.equal_comm (context.shared.memory.lookup left)]

theorem fst_compareCells_iff {left right : Option Address} :
    (compareCells context left right).1 = true ↔
      context.shared.memory.CellsEqual left right := by
  constructor
  · intro answered
    unfold compareCells at answered
    split at answered
    · exact .same _
    · split at answered
      · rename_i same
        cases same
        exact .same _
      · exact .values answered
    · cases answered
  · intro cellsEqual
    cases cellsEqual with
    | same =>
        cases left with
        | none => rfl
        | some address => rw [compareCells, if_pos rfl]
    | values equal =>
        rw [compareCells]
        split
        · rfl
        · exact equal

/-- Operands of which none is immediate are compared by their cells. -/
theorem run_operandsEqual_of_cells (not_left : isImmediate left = false)
    (not_right : isImmediate right = false) :
    (operandsEqual left right).run context =
      Answer.ofBoth context (compareCells context) (left.address.run context).1
        (right.address.run context).1 := by
  have left_kept := left.snd_run_address context
  have right_kept := right.snd_run_address context
  unfold operandsEqual
  split
  · cases not_left
  · simp only [not_left, not_right, Bool.or_self, Bool.false_eq_true, if_false, Task.run_bind]
    generalize left.address.run context = leftAnswer at left_kept ⊢
    rcases leftAnswer with ⟨cause | leftCell, unchanged⟩ <;> cases left_kept
    · rfl
    · dsimp only
      generalize right.address.run unchanged = rightAnswer at right_kept ⊢
      rcases rightAnswer with ⟨cause | rightCell, _⟩ <;> cases right_kept
      · rfl
      · cases leftCell with
        | none => cases rightCell <;> rfl
        | some leftAddress =>
            cases rightCell with
            | none => rfl
            | some rightAddress =>
                simp only [Answer.ofBoth, compareCells]
                split
                · rfl
                · -- The second cell is read in memory that is padded for the first.
                  simp only [Context.onMemory, Task.run_bind, Task.run_within, Task.run_ofUpdate,
                    Task.run_pure, Memory.read, Context.withMemory, Memory.lookup_extend]

/-! ### Questions about values -/

/-- The operands of which one is immediate are compared by their values. -/
theorem run_operandsEqual_of_values (immediate : (isImmediate left || isImmediate right) = true)
    (not_literals : ∀ leftLiteral rightLiteral,
      ¬(left = .literal leftLiteral ∧ right = .literal rightLiteral)) :
    (operandsEqual left right).run context =
      Answer.ofBoth context
        (fun leftValue rightValue => (immediatesEqual leftValue rightValue,
          context.withMemory
            ((context.shared.memory.extendSlot (left.cell? context.scope)).extendSlot
              (right.cell? context.scope))))
        (left.evaluate context) (right.evaluate context) := by
  unfold operandsEqual
  split
  · exact absurd ⟨rfl, rfl⟩ (not_literals _ _)
  · simp only [immediate, if_true, Task.run_bind, Operand.run_load]
    cases left_eq : left.evaluate context with
    | error cause =>
        rw [Operand.cell?_of_evaluate left_eq]
        rfl
    | ok leftValue =>
        have padded := context.shared.memory.paddedTo_extendSlot (left.cell? context.scope)
        simp only [Operand.evaluate_of_paddedTo (.withMemory padded)]
        cases right_eq : right.evaluate context with
        | ok rightValue => rfl
        | error cause =>
            -- What is refused is not immediate, so that the other one names no cell.
            have left_immediate : isImmediate left = true := by
              rcases Bool.or_eq_true _ _ ▸ immediate with left_immediate | right_immediate
              · exact left_immediate
              · cases right <;> cases right_immediate <;> cases right_eq
            have left_cell : left.cell? context.scope = none := by
              cases left <;> cases left_immediate <;> rfl
            have right_cell : right.cell? context.scope = none := Operand.cell?_of_evaluate right_eq
            simp only [Context.withMemory, left_cell, right_cell]
            rfl

/-- Operands of all kinds can be exchanged. -/
theorem operandsEqual_agrees :
    Answer.Agrees ((operandsEqual left right).run context)
      ((operandsEqual right left).run context) := by
  by_cases literals : ∃ leftLiteral rightLiteral,
      left = .literal leftLiteral ∧ right = .literal rightLiteral
  · rcases literals with ⟨leftLiteral, rightLiteral, rfl, rfl⟩
    apply Answer.agrees_of_eq
    simp only [operandsEqual, Literal.equal_comm]
  · cases immediate : isImmediate left || isImmediate right with
    | false =>
        rcases Bool.or_eq_false_iff.mp immediate with ⟨not_left, not_right⟩
        rw [run_operandsEqual_of_cells context left right not_left not_right,
          run_operandsEqual_of_cells context right left not_right not_left]
        exact Answer.ofBoth_agrees (compareCells_comm context) _ _
    | true =>
        have immediate' := Bool.or_comm _ _ ▸ immediate
        rw [run_operandsEqual_of_values context left right immediate
            (fun _ _ both => literals ⟨_, _, both⟩),
          run_operandsEqual_of_values context right left immediate'
            (fun _ _ both => literals ⟨_, _, both.2, both.1⟩),
          Memory.extendSlot_comm]
        apply Answer.ofBoth_agrees
        intro leftValue rightValue
        rw [immediatesEqual_comm]

variable {context left right}

/-- The answer for addressable operands tells whether their cells are equal. -/
theorem fst_run_operandsEqual (left_addressable : left.IsAddressable context.scope)
    (right_addressable : right.IsAddressable context.scope) :
    ∃ equal, ((operandsEqual left right).run context).1 = .ok equal ∧
      (equal = true ↔ context.shared.memory.CellsEqual (left.cell? context.scope)
        (right.cell? context.scope)) := by
  rw [run_operandsEqual_of_cells context left right
      (Operand.isImmediate_of_isAddressable left_addressable)
      (Operand.isImmediate_of_isAddressable right_addressable),
    Operand.run_address_of_isAddressable left_addressable,
    Operand.run_address_of_isAddressable right_addressable]
  exact ⟨_, rfl, fst_compareCells_iff context⟩

end Instruction

namespace Context

variable (context : Context)

/-- The answer is that two operands are equal. -/
def Equal (left right : Operand) : Prop :=
  ((Instruction.operandsEqual left right).run context).1 = .ok true

/-- The context after questions about pairs of operands, whatever the answers were. -/
def afterQueries (queries : List (Operand × Operand)) : Context :=
  queries.foldl
    (fun context query => ((Instruction.operandsEqual query.1 query.2).run context).2) context

variable {context}

theorem paddedTo_operandsEqual (context : Context) (left right : Operand) :
    context.PaddedTo ((Instruction.operandsEqual left right).run context).2 := by
  have inspects := Instruction.inspects_operandsEqual context left right
  rcases run : (Instruction.operandsEqual left right).run context with ⟨cause | equal, after⟩
  · exact (inspects.of_run_error run).1
  · exact (inspects.of_run_ok run).1

/-- Questions pad memory. -/
theorem paddedTo_afterQueries (context : Context) (queries : List (Operand × Operand)) :
    context.PaddedTo (context.afterQueries queries) := by
  induction queries generalizing context with
  | nil => exact .refl context
  | cons query queries ih =>
      exact (context.paddedTo_operandsEqual query.1 query.2).trans (ih _)

theorem equal_iff {left right : Operand} (left_addressable : left.IsAddressable context.scope)
    (right_addressable : right.IsAddressable context.scope) :
    context.Equal left right ↔ context.shared.memory.CellsEqual (left.cell? context.scope)
      (right.cell? context.scope) := by
  rcases Instruction.fst_run_operandsEqual left_addressable right_addressable with
    ⟨equal, run, equal_iff⟩
  rw [Equal, run, Except.ok.injEq]
  exact equal_iff

/-- The operands that name cells are compared by an equivalence.  They get the same answers after
all questions that were asked before.  Operands of any kinds can be exchanged: then the question is
refused or answered in the same way, and memory is the same after it. -/
theorem equality_equivalence (context : Context) :
    (Equivalence fun left right : {operand : Operand // operand.IsAddressable context.scope} =>
      context.Equal left right) ∧
    (∀ queries left right, left.IsAddressable context.scope → right.IsAddressable context.scope →
      ∃ equal,
        ((Instruction.operandsEqual left right).run (context.afterQueries queries)).1 =
          .ok equal ∧ (equal = true ↔ context.Equal left right)) ∧
    ∀ left right, Answer.Agrees ((Instruction.operandsEqual left right).run context)
      ((Instruction.operandsEqual right left).run context) := by
  refine ⟨?_, ?_, Instruction.operandsEqual_agrees context⟩
  · have cells := context.shared.memory.cellsEqual_equivalence
    constructor
    · intro operand
      exact (equal_iff operand.2 operand.2).mpr (cells.refl _)
    · intro left right equal
      exact (equal_iff right.2 left.2).mpr (cells.symm ((equal_iff left.2 right.2).mp equal))
    · intro left middle right first second
      exact (equal_iff left.2 right.2).mpr (cells.trans ((equal_iff left.2 middle.2).mp first)
        ((equal_iff middle.2 right.2).mp second))
  · intro queries left right left_addressable right_addressable
    have padded := context.paddedTo_afterQueries queries
    have answered := equal_iff left_addressable right_addressable
    rw [← padded.scope_eq] at left_addressable right_addressable answered
    rcases Instruction.fst_run_operandsEqual left_addressable right_addressable with
      ⟨equal, run, equal_iff⟩
    exact ⟨equal, run, equal_iff.trans (padded.memory.cellsEqual_iff.trans answered.symm)⟩

/-- A variable whose cell holds `nan`. -/
def ofNan : Context where
  shared := { SharedState.empty with memory := (Memory.empty.allocate (.number .nan)).2 }
  scope := ⟨Table.empty.set 0 (.anonymous (some ⟨1, Nat.one_pos⟩)), .empty⟩

/-- The variable equals itself and its cell, also when far cells have been read, although its value
does not equal itself. -/
theorem equality_equivalence_ofNan :
    (Value.number .nan).equal (.number .nan) = false ∧
      ofNan.Equal (.variable 0) (.variable 0) ∧
      ((Instruction.operandsEqual (.rawAddress 1) (.variable 0)).run
        (ofNan.afterQueries [(.rawAddress 8, .rawAddress 4)])).1 = .ok true := by
  have bound : (Operand.variable 0).IsAddressable ofNan.scope := rfl
  have equal := (equality_equivalence ofNan).1.refl ⟨.variable 0, bound⟩
  have same : ofNan.Equal (.rawAddress 1) (.variable 0) := equal
  rcases (equality_equivalence ofNan).2.1 [(.rawAddress 8, .rawAddress 4)] (.rawAddress 1)
    (.variable 0) trivial bound with ⟨answer, run, answer_iff⟩
  rw [answer_iff.mpr same] at run
  exact ⟨rfl, equal, run⟩

end Context

end ScriptMachine
