import ScriptMachine.Engine
import ScriptMachine.Proofs.Binary64.Nearest
import ScriptMachine.Proofs.Machine.Cells
import ScriptMachine.Proofs.Machine.Executions
import ScriptMachine.Value.Arithmetic

/-!
# Accumulation of integers

Sums, differences and products of integers.  An integer is kept as long as it fits 32 bits.  When a
sum does not fit any more the cell goes over to numbers, and from then on it is a number even if
later sums would fit; but no digit is lost as long as the sums are small enough to be numbers.

`Value.StandsFor` says that a value is one of the two representations of an integer.  It is what one
addition preserves, and with it a whole sequence of them.
-/

namespace ScriptMachine

/-- An integer fits 32 bits. -/
def FitsInt32 (value : Int) : Prop :=
  Int32.minValue.toInt ≤ value ∧ value ≤ Int32.maxValue.toInt

instance (value : Int) : Decidable (FitsInt32 value) :=
  inferInstanceAs (Decidable (_ ∧ _))

namespace Value

/-! ## Operations on integers -/

section Operations

variable {exact : Int → Int → Int} (round : Binary64 → Binary64 → Binary64) {left right : Int32}

theorem exactlyOrRounded_of_fits (fits : FitsInt32 (exact left.toInt right.toInt)) :
    ∃ result : Int32, result.toInt = exact left.toInt right.toInt ∧
      exactlyOrRounded exact round (.integer left) (.integer right) = .ok (.integer result) := by
  have upper : Int32.maxValue.toInt < 1 <<< 31 := by decide
  refine ⟨Int32.ofInt (exact left.toInt right.toInt), ?_, ?_⟩
  · exact Int32.toInt_ofInt_of_le fits.1 (Int.lt_of_le_of_lt fits.2 upper)
  · simp only [exactlyOrRounded, exactly?, ofInt32?, if_pos (show _ ∧ _ from fits)]

theorem exactlyOrRounded_of_not_fits (not_fits : ¬FitsInt32 (exact left.toInt right.toInt)) :
    exactlyOrRounded exact round (.integer left) (.integer right) =
      .ok (.number (round (.ofInt left.toInt) (.ofInt right.toInt))) := by
  simp only [exactlyOrRounded, exactly?, ofInt32?, if_neg (show ¬(_ ∧ _) from not_fits)]
  rfl

/-- A product that does not fit is rounded once. -/
theorem isNearest_multiply (not_fits : ¬FitsInt32 (left.toInt * right.toInt)) :
    (Binary64.multiply (.ofInt left.toInt) (.ofInt right.toInt)).IsNearest
      (left.toInt * right.toInt) := by
  have nonzero : left.toInt * right.toInt ≠ 0 := by
    intro zero
    rw [zero] at not_fits
    exact not_fits (by decide)
  rw [Binary64.multiply_ofInt (Binary64.natAbs_toInt_le_exactBound left)
    (Binary64.natAbs_toInt_le_exactBound right) nonzero]
  apply Binary64.isNearest_ofInt
  have square_eq : 1 <<< 62 = 1 <<< 31 * 1 <<< 31 := rfl
  rw [Int.natAbs_mul, square_eq]
  exact Nat.mul_le_mul (Binary64.natAbs_toInt_le left) (Binary64.natAbs_toInt_le right)

end Operations

/-! ## Values that stand for integers -/

/-- A value is an integer, as it is or as the number of it. -/
inductive StandsFor (total : Int) : Value → Prop where
  | integer {value : Int32} (toInt_eq : value.toInt = total) : StandsFor total (.integer value)
  | number : StandsFor total (.number (.ofInt total))

namespace StandsFor

variable {total : Int} {value : Value}

theorem kind_eq (stands : value.StandsFor total) :
    value.kind = .integer ∨ value.kind = .number := by
  cases stands with
  | integer => exact .inl rfl
  | number => exact .inr rfl

/-- Conversion to a number is exact. -/
theorem exists_toDouble (stands : value.StandsFor total)
    (small : total.natAbs ≤ Binary64.exactBound) :
    ∃ number, value.toDouble = .ok number ∧
      number.position? = some (total * unitsPerOne) := by
  refine ⟨.ofInt total, ?_, Binary64.position?_ofInt small⟩
  cases stands with
  | integer toInt_eq => rw [toDouble, toInt_eq]
  | number => rfl

/-- An operation that is exact on numbers gives a value that stands for its result, which is an
integer if the operand was one and the result fits. -/
theorem exists_exactlyOrRounded (exact : Int → Int → Int)
    {round : Binary64 → Binary64 → Binary64} {amount : Int32} (stands : value.StandsFor total)
    (rounds : round (.ofInt total) (.ofInt amount.toInt) = .ofInt (exact total amount.toInt)) :
    ∃ result, exactlyOrRounded exact round value (.integer amount) = .ok result ∧
      result.StandsFor (exact total amount.toInt) ∧
      (result.kind = .integer ↔
        value.kind = .integer ∧ FitsInt32 (exact total amount.toInt)) := by
  cases stands with
  | @integer current toInt_eq =>
      subst toInt_eq
      by_cases fits : FitsInt32 (exact current.toInt amount.toInt)
      · obtain ⟨result, result_eq, operates⟩ := exactlyOrRounded_of_fits round fits
        exact ⟨_, operates, .integer result_eq, by simp [kind, fits]⟩
      · have operates := exactlyOrRounded_of_not_fits round fits
        rw [rounds] at operates
        exact ⟨_, operates, .number, by simp [kind, fits]⟩
  | number =>
      refine ⟨_, ?_, .number, by simp [kind]⟩
      rw [← rounds]
      rfl

end StandsFor

end Value

/-! ## Contributions -/

/-- An integer that is added to a cell or subtracted from it. -/
inductive Contribution where
  | plus (amount : Int32)
  | minus (amount : Int32)

namespace Contribution

/-- The operand of the instruction. -/
def amount : Contribution → Int32
  | .plus amount | .minus amount => amount

/-- What the contribution changes the sum by. -/
def term : Contribution → Int
  | .plus amount => amount.toInt
  | .minus amount => -amount.toInt

def opcode : Contribution → Opcode
  | .plus _ => .add
  | .minus _ => .subtract

def operation : Contribution → Value → Value → Except Mismatch Value
  | .plus _ => Value.add
  | .minus _ => Value.subtract

theorem updates (contribution : Contribution) :
    contribution.opcode.Updates contribution.operation := by
  cases contribution with
  | plus => exact .add
  | minus => exact .subtract

/-- The sum after contributions to a total. -/
def sum (total : Int) : List Contribution → Int
  | [] => total
  | contribution :: rest => sum (total + contribution.term) rest

/-- The sums after each of the contributions to a total. -/
def partialSums (total : Int) : List Contribution → List Int
  | [] => []
  | contribution :: rest =>
      (total + contribution.term) :: partialSums (total + contribution.term) rest

variable {value : Value}

/-- A contribution to an integer or a number gives one of them, whatever its amount. -/
theorem exists_numeric (contribution : Contribution)
    (numeric : value.kind = .integer ∨ value.kind = .number) :
    ∃ result, contribution.operation value (.integer contribution.amount) = .ok result ∧
      (result.kind = .integer ∨ result.kind = .number) := by
  have exists_exactlyOrRounded (exact : Int → Int → Int) (round : Binary64 → Binary64 → Binary64)
      (amount : Int32) :
      ∃ result, Value.exactlyOrRounded exact round value (.integer amount) = .ok result ∧
        (result.kind = .integer ∨ result.kind = .number) := by
    cases value with
    | integer current =>
        by_cases fits : FitsInt32 (exact current.toInt amount.toInt)
        · obtain ⟨result, -, operates⟩ := Value.exactlyOrRounded_of_fits round fits
          exact ⟨_, operates, .inl rfl⟩
        · exact ⟨_, Value.exactlyOrRounded_of_not_fits round fits, .inr rfl⟩
    | number current => exact ⟨_, rfl, .inr rfl⟩
    | none | text | list | object | function | nativeFunction | foreign =>
        rcases numeric with ⟨⟨⟩⟩ | ⟨⟨⟩⟩
  cases contribution <;> exact exists_exactlyOrRounded _ _ _

/-- A contribution to a value that stands for a total gives one that stands for the next. -/
theorem exists_result {total : Int} (contribution : Contribution)
    (stands : value.StandsFor total) (small : total.natAbs ≤ Binary64.exactBound) :
    ∃ result, contribution.operation value (.integer contribution.amount) = .ok result ∧
      result.StandsFor (total + contribution.term) ∧
      (result.kind = .integer ↔
        value.kind = .integer ∧ FitsInt32 (total + contribution.term)) := by
  cases contribution with
  | plus amount =>
      exact stands.exists_exactlyOrRounded (· + ·)
        (Binary64.add_ofInt small (Binary64.natAbs_toInt_le_exactBound amount))
  | minus amount =>
      rw [term, ← Int.sub_eq_add_neg]
      exact stands.exists_exactlyOrRounded (· - ·)
        (Binary64.subtract_ofInt small (Binary64.natAbs_toInt_le_exactBound amount))

end Contribution

namespace Machine

/-! ## Accumulation -/

/-- Contributions are made to a cell one after the other.  What the machine does in between leaves
the cell as it is. -/
inductive Accumulates (host : Host) (address : Address) : List Contribution → Machine → Prop where
  | done (machine : Machine) : Accumulates host address [] machine
  | contribution {machine : Machine} {contribution : Contribution} {rest : List Contribution}
      (applies : machine.Applies contribution.opcode address (.integer contribution.amount))
      (continues : ∀ next, machine.step host = .running next → Accumulates host address rest next) :
      Accumulates host address (contribution :: rest) machine
  | other {machine next : Machine} {contributions : List Contribution}
      (stepped : machine.step host = .running next)
      (kept : next.shared.memory.lookup address = machine.shared.memory.lookup address)
      (continues : Accumulates host address contributions next) :
      Accumulates host address contributions machine

variable {host : Host} {address : Address}

/-- Contributions to a cell that stands for a total make it stand for their sum, and no step of it
fails.  The cell is an integer as long as all sums have fitted. -/
theorem Accumulates.exists_run {machine : Machine} {contributions : List Contribution}
    (accumulates : machine.Accumulates host address contributions) {total : Int}
    {first rest : List Contribution} (contributions_eq : contributions = first ++ rest)
    (stands : (machine.shared.memory.lookup address).StandsFor total)
    (total_small : total.natAbs ≤ Binary64.exactBound)
    (small : ∀ sum ∈ Contribution.partialSums total first, sum.natAbs ≤ Binary64.exactBound) :
    ∃ steps next, machine.run host steps = .running next ∧
      next.Accumulates host address rest ∧
      (next.shared.memory.lookup address).StandsFor (Contribution.sum total first) ∧
      (Contribution.sum total first).natAbs ≤ Binary64.exactBound ∧
      ((next.shared.memory.lookup address).kind = .integer ↔
        (machine.shared.memory.lookup address).kind = .integer ∧
          ∀ sum ∈ Contribution.partialSums total first, FitsInt32 sum) := by
  induction accumulates generalizing total first with
  | done machine =>
      rcases List.append_eq_nil_iff.mp contributions_eq.symm with ⟨rfl, rfl⟩
      exact ⟨0, machine, rfl, .done machine, stands, total_small,
        by simp [Contribution.partialSums]⟩
  | @contribution machine contribution others applies continues later =>
      cases first with
      | nil =>
          rw [List.nil_append] at contributions_eq
          subst contributions_eq
          exact ⟨0, machine, rfl, .contribution applies continues, stands, total_small,
            by simp [Contribution.partialSums]⟩
      | cons head tail =>
          rcases List.cons_eq_cons.mp contributions_eq with ⟨rfl, others_eq⟩
          obtain ⟨result, operates, stands', kind_iff⟩ :=
            contribution.exists_result stands total_small
          obtain ⟨middle, stepped, held⟩ :=
            applies.exists_step host contribution.updates operates
          rw [Contribution.partialSums, List.forall_mem_cons] at small
          rw [← held] at stands' kind_iff
          obtain ⟨steps, next, runs, accumulates, stands'', sum_small, kind_iff'⟩ :=
            later middle stepped others_eq stands' small.1 small.2
          refine ⟨steps + 1, next, ?_, accumulates, stands'', sum_small, ?_⟩
          · rw [run, stepped]
            exact runs
          · rw [Contribution.partialSums, List.forall_mem_cons, kind_iff', kind_iff, and_assoc]
  | other stepped kept _ later =>
      rw [← kept] at stands ⊢
      obtain ⟨steps, next, runs, reached⟩ := later contributions_eq stands total_small small
      refine ⟨steps + 1, next, ?_, reached⟩
      rw [run, stepped]
      exact runs

/-- Straight-line code that adds integers from other cells accumulates them. -/
theorem accumulates_of_continuesWith {machine : Machine} {target : Operand}
    {code : List (Contribution × Operand)}
    (continues : machine.ContinuesWith (code.map fun (contribution, source) =>
      (contribution.opcode, [target, source])))
    (named : target.cell? machine.current.scope = some address)
    (sources : ∀ contribution source, (contribution, source) ∈ code →
      source.evaluate machine.context = .ok (.integer contribution.amount) ∧
        source.cell? machine.current.scope ≠ some address)
    (numeric : (machine.shared.memory.lookup address).kind = .integer ∨
      (machine.shared.memory.lookup address).kind = .number) :
    machine.Accumulates host address (code.map Prod.fst) := by
  induction code generalizing machine with
  | nil => exact .done machine
  | cons head rest later =>
      rcases head with ⟨contribution, source⟩
      obtain ⟨evaluated, -⟩ := sources contribution source (List.mem_cons_self ..)
      obtain ⟨result, operates, numeric'⟩ := contribution.exists_numeric numeric
      obtain ⟨middle, next, padded, stepped, context_eq, continues'⟩ :=
        exists_step host continues fun instruction is =>
          is.achieves_update host _ contribution.updates named evaluated operates
      have scope_eq : next.current.scope = machine.current.scope :=
        (congrArg Context.scope context_eq).trans padded.scope_eq
      refine .contribution ⟨⟨continues.1, trivial⟩, named, evaluated⟩ fun other stepped' => ?_
      cases stepped.symm.trans stepped'
      apply later continues'
      · rwa [scope_eq]
      · intro contribution source mem
        obtain ⟨evaluated, other⟩ := sources contribution source (List.mem_cons_of_mem _ mem)
        refine ⟨?_, by rwa [scope_eq]⟩
        have other : source.cell? middle.scope ≠ some address := by rwa [padded.scope_eq]
        rw [context_eq, Operand.evaluate_cell_of_ne _ other, Operand.evaluate_of_paddedTo padded,
          evaluated]
      · rwa [lookup_of_cell context_eq]

/-- A product is an integer if it fits, and otherwise the number that is nearest to it. -/
theorem Applies.exists_product (host : Host) {machine : Machine} {left right : Int32}
    (applies : machine.Applies .multiply address (.integer right))
    (held : machine.shared.memory.lookup address = .integer left) :
    ∃ next, machine.step host = .running next ∧
      if FitsInt32 (left.toInt * right.toInt) then
        ∃ product : Int32, product.toInt = left.toInt * right.toInt ∧
          next.shared.memory.lookup address = .integer product
      else
        ∃ product : Binary64, product.IsNearest (left.toInt * right.toInt) ∧
          next.shared.memory.lookup address = .number product := by
  split
  · rename_i fits
    obtain ⟨product, product_eq, operates⟩ :=
      Value.exactlyOrRounded_of_fits Binary64.multiply fits
    rw [← held] at operates
    obtain ⟨next, stepped, holds⟩ := applies.exists_step host .multiply operates
    exact ⟨next, stepped, product, product_eq, holds⟩
  · rename_i not_fits
    have operates := Value.exactlyOrRounded_of_not_fits Binary64.multiply not_fits
    rw [← held] at operates
    obtain ⟨next, stepped, holds⟩ := applies.exists_step host .multiply operates
    exact ⟨next, stepped, _, Value.isNearest_multiply not_fits, holds⟩

/-- Sums and differences of integers are kept exactly as long as all of them are at most
`2 ^ 53`, in an integer until the first of them that does not fit and in a number from then on.  A
product is an integer if it fits, and otherwise the number that is nearest to it. -/
theorem integer_accumulation (host : Host) (address : Address) :
    (∀ (machine : Machine) (start : Int32) (first rest : List Contribution),
      machine.shared.memory.lookup address = .integer start →
      machine.Accumulates host address (first ++ rest) →
      (∀ sum ∈ Contribution.partialSums start.toInt first, sum.natAbs ≤ Binary64.exactBound) →
      ∃ steps next number, machine.run host steps = .running next ∧
        next.Accumulates host address rest ∧
        (next.shared.memory.lookup address).toDouble = .ok number ∧
        number.position? = some (Contribution.sum start.toInt first * unitsPerOne) ∧
        (next.shared.memory.lookup address).kind =
          if ∀ sum ∈ Contribution.partialSums start.toInt first, FitsInt32 sum then .integer
          else .number) ∧
    ∀ (machine : Machine) (left right : Int32),
      machine.shared.memory.lookup address = .integer left →
      machine.Applies .multiply address (.integer right) →
      ∃ next, machine.step host = .running next ∧
        if FitsInt32 (left.toInt * right.toInt) then
          ∃ product : Int32, product.toInt = left.toInt * right.toInt ∧
            next.shared.memory.lookup address = .integer product
        else
          ∃ product : Binary64, product.IsNearest (left.toInt * right.toInt) ∧
            next.shared.memory.lookup address = .number product := by
  constructor
  · intro machine start first rest held accumulates small
    have stands : (machine.shared.memory.lookup address).StandsFor start.toInt := by
      rw [held]
      exact .integer rfl
    obtain ⟨steps, next, runs, accumulates, stands, sum_small, kind_iff⟩ :=
      accumulates.exists_run rfl stands (Binary64.natAbs_toInt_le_exactBound start) small
    obtain ⟨number, converted, position_eq⟩ := stands.exists_toDouble sum_small
    refine ⟨steps, next, number, runs, accumulates, converted, position_eq, ?_⟩
    rw [held] at kind_iff
    split
    · rename_i fit
      exact kind_iff.mpr ⟨rfl, fit⟩
    · rename_i not_fit
      exact stands.kind_eq.resolve_left fun kind_eq => not_fit (kind_iff.mp kind_eq).2
  · exact fun machine left right held applies => applies.exists_product host held

/-- A program that squares its third argument, and adds its second one to the first and takes it
away again. -/
def accumulatingProgram : Program where
  imports := []
  constants := []
  vars := []
  functions := [⟨0, "main", .exported⟩]
  instructions := #[
    .make .label [.label 0],
    .make .multiply [.rawAddress 3, .rawAddress 3],
    .make .add [.rawAddress 1, .rawAddress 2],
    .make .subtract [.rawAddress 1, .rawAddress 2]]

theorem integer_accumulation_accumulatingProgram :
    ∃ initial before between after square number steps,
      (Engine.ofProgram accumulatingProgram).start Engine.mainEntry
        (some [.integer Int32.maxValue, .integer 1, .integer Int32.maxValue]) true =
          .running initial ∧
        initial.run Host.empty 1 = .running before ∧
        before.step Host.empty = .running between ∧
        between.shared.memory.lookup ⟨3, by decide⟩ = .number square ∧
        square.IsNearest (Int32.maxValue.toInt * Int32.maxValue.toInt) ∧
        between.run Host.empty steps = .running after ∧
        (after.shared.memory.lookup ⟨1, by decide⟩).toDouble = .ok number ∧
        number.position? = some (Int32.maxValue.toInt * unitsPerOne) ∧
        (after.shared.memory.lookup ⟨1, by decide⟩).kind = .number := by
  have states : ∃ initial before between,
      (Engine.ofProgram accumulatingProgram).start Engine.mainEntry
        (some [.integer Int32.maxValue, .integer 1, .integer Int32.maxValue]) true =
          .running initial ∧
        initial.run Host.empty 1 = .running before ∧ before.step Host.empty = .running between ∧
        before.current.program = accumulatingProgram ∧ before.current.offset = 1 ∧
        before.shared.memory.lookup ⟨3, by decide⟩ = .integer Int32.maxValue ∧
        between.current.program = accumulatingProgram ∧ between.current.offset = 2 ∧
        between.shared.memory.lookup ⟨1, by decide⟩ = .integer Int32.maxValue ∧
        between.shared.memory.lookup ⟨2, by decide⟩ = .integer 1 :=
    ⟨_, _, _, rfl, rfl, rfl, rfl, rfl, rfl, rfl, rfl, rfl, rfl⟩
  rcases states with ⟨initial, before, between, starts, runs, stepped, program_eq, offset_eq, third,
    program_eq', offset_eq', first, second⟩
  have continues : before.ContinuesWith [(.multiply, [.rawAddress 3, .rawAddress 3])] := by
    rw [ContinuesWith, program_eq, offset_eq]
    refine ⟨⟨_, rfl, rfl, ?_⟩, trivial⟩
    rintro (_ | _ | _) _ ⟨⟩ <;> rfl
  have continues' : between.ContinuesWith
      [(.add, [.rawAddress 1, .rawAddress 2]), (.subtract, [.rawAddress 1, .rawAddress 2])] := by
    rw [ContinuesWith, program_eq', offset_eq']
    refine ⟨⟨_, rfl, rfl, ?_⟩, ⟨_, rfl, rfl, ?_⟩, trivial⟩ <;> rintro (_ | _ | _) _ ⟨⟩ <;> rfl
  have accumulates : between.Accumulates Host.empty ⟨1, by decide⟩
      ([(Contribution.plus 1, Operand.rawAddress 2), (.minus 1, .rawAddress 2)].map Prod.fst) := by
    refine accumulates_of_continuesWith continues' rfl ?_ (.inl (congrArg Value.kind first))
    intro contribution source mem
    simp only [List.mem_cons, Prod.mk.injEq, List.not_mem_nil, or_false] at mem
    rcases mem with ⟨rfl, rfl⟩ | ⟨rfl, rfl⟩ <;> exact ⟨congrArg Except.ok second, nofun⟩
  rcases (integer_accumulation Host.empty ⟨3, by decide⟩).2 before Int32.maxValue Int32.maxValue
    third ⟨continues, rfl, congrArg Except.ok third⟩ with ⟨_, stepped', squared⟩
  cases stepped.symm.trans stepped'
  rw [if_neg (by decide)] at squared
  rcases squared with ⟨square, nearest, held⟩
  rcases (integer_accumulation Host.empty ⟨1, by decide⟩).1 between Int32.maxValue
    [.plus 1, .minus 1] [] first accumulates (by decide) with
    ⟨steps, after, number, reached, -, converted, position_eq, kind_eq⟩
  rw [if_neg (by decide)] at kind_eq
  exact ⟨initial, before, between, after, square, number, steps, starts, runs, stepped, held,
    nearest, reached, converted, position_eq, kind_eq⟩

end Machine

end ScriptMachine
