import ScriptMachine.Engine
import ScriptMachine.Proofs.Machine.Cells
import ScriptMachine.Proofs.Value.Conversions

/-!
# Branching and negation

A conditional jump looks at its condition as a number, and negation at its cell as an integer.
Truncation is what tells them apart: the numbers between zero and one are greater than zero, but
their integer part is not.  A branch on such a value is taken, and its negation is true as well.
For all other values the two are complementary.
-/

namespace ScriptMachine

namespace Binary64

/-- A number is greater than zero and less than one. -/
def IsFraction (number : Binary64) : Prop :=
  ∃ position, number.position? = some position ∧ 0 < position ∧ position < unitsPerOne

theorem one_ne_zero : one ≠ zero := by decide +kernel

/-- One half. -/
def half : Binary64 := .finite false (1 <<< 1073) (by decide +kernel)

theorem isFraction_half : half.IsFraction :=
  ⟨_, rfl, by decide +kernel, by decide +kernel⟩

theorem IsFraction.isPositive {number : Binary64} (fraction : number.IsFraction) :
    number.IsPositive := by
  obtain ⟨position, position_eq, positive, -⟩ := fraction
  exact ⟨position, position_eq, positive⟩

theorem not_isFraction_ofInt {value : Int} (small : value.natAbs ≤ exactBound) :
    ¬(ofInt value).IsFraction := by
  rintro ⟨position, position_eq, positive, below_one⟩
  cases (position?_ofInt small).symm.trans position_eq
  rw [← Int.one_mul (unitsPerOne : Int), ← Int.mul_assoc, Int.mul_one,
    Int.mul_lt_mul_right unitsPerOne_int_pos] at below_one
  have value_pos := (isPositive_ofInt small).mp ⟨_, position_eq, positive⟩
  omega

theorem tdiv_nonpos_iff {position unit : Int} (unit_pos : 0 < unit) :
    position.tdiv unit ≤ 0 ↔ position < unit := by
  rcases Int.le_total 0 position with nonneg | nonpos
  · have one_le_iff := (Int.le_ediv_iff_mul_le unit_pos : 1 ≤ position / unit ↔ 1 * unit ≤ position)
    rw [Int.one_mul] at one_le_iff
    rw [Int.tdiv_eq_ediv_of_nonneg nonneg]
    omega
  · have quotient_nonneg :=
      Int.tdiv_nonneg (Int.neg_nonneg_of_nonpos nonpos) (Int.le_of_lt unit_pos)
    rw [Int.neg_tdiv] at quotient_nonneg
    omega

/-- The integer part of a number that is greater than zero is not, if the number is less than
one. -/
theorem integerPart_nonpos_iff {number : Binary64} :
    number.integerPart ≤ 0 ↔ (number.IsPositive → number.IsFraction) := by
  cases position_eq : number.position? with
  | none => simp [integerPart, IsPositive, position_eq]
  | some position =>
      rw [integerPart_of_position position_eq, tdiv_nonpos_iff unitsPerOne_int_pos]
      have unit_pos := unitsPerOne_int_pos
      simp only [IsPositive, IsFraction, position_eq, Option.some.injEq, exists_eq_left']
      omega

end Binary64

theorem Value.exists_toInteger {value : Value} {number : Binary64}
    (converted : value.toDouble = .ok number) :
    ∃ integer, value.toInteger = .ok integer ∧
      (integer ≤ 0 ↔ (number.IsPositive → number.IsFraction)) := by
  have low_nonpos : Int32.minValue.toInt ≤ 0 := by decide
  have high_pos : 0 < Int32.maxValue.toInt := by decide
  have low_nonpos' : Int64.minValue.toInt ≤ 0 := by decide
  have high_pos' : 0 < Int64.maxValue.toInt := by decide
  obtain ⟨-, integer, long, -, integer_eq, -, -, -, clamped, truncated⟩ :=
    conversions_of_toDouble converted
  refine ⟨integer, integer_eq, ?_⟩
  rw [Int32.le_iff_toInt_le, Int32.toInt_zero, clamped, truncated,
    ← Binary64.integerPart_nonpos_iff]
  omega

/-! ## Instructions -/

theorem Operand.achieves_labelOffset {context : Context} {label : UInt64} {offset : Nat}
    (bound : context.scope.labelOffset? label = some offset) :
    (Operand.label label).labelOffset.Achieves context .none offset := by
  refine ⟨context, .refl context, ?_⟩
  simp only [labelOffset, Task.run_bind, Task.run_get]
  rw [Scope.labelOffset?] at bound
  rw [bound]
  rfl

/-- Whether a branch is taken depends on the condition as a number. -/
theorem Instruction.Is.achieves_jumpIfTrue (host : Host) (depth : Nat) {context : Context}
    {instruction : Instruction} {condition : Operand} {label : UInt64} {value : Value}
    {number : Binary64} {offset : Nat}
    (is : instruction.Is .jumpIfTrue [condition, .label label])
    (evaluated : condition.evaluate context = .ok value) (converted : value.toDouble = .ok number)
    (bound : context.scope.labelOffset? label = some offset) :
    (instruction.perform host depth).Achieves context .none
      (if number.positive then .jump offset else .next) := by
  rw [perform, is.opcode_eq, is.operand_eq 0 _ rfl, is.operand_eq 1 _ rfl]
  apply (Operand.achieves_conversion evaluated converted).bind
  intro after padded
  rw [← padded.scope_eq] at bound
  split
  · apply (Operand.achieves_labelOffset bound).bind
    exact fun _ _ => Task.achieves_pure _
  · exact Task.achieves_pure _

namespace Machine

/-! ## Machines -/

/-- The next instruction jumps to an offset if a value is true. -/
inductive BranchesOn (machine : Machine) (value : Value) (offset : Nat) : Prop where
  | intro {condition : Operand} {label : UInt64}
      (continues : machine.ContinuesWith [(.jumpIfTrue, [condition, .label label])])
      (evaluated : condition.evaluate machine.context = .ok value)
      (bound : machine.current.scope.labelOffset? label = some offset) :
      BranchesOn machine value offset

/-- The next instruction negates a cell. -/
inductive Negates (machine : Machine) (address : Address) : Prop where
  | intro {target : Operand} (continues : machine.ContinuesWith [(.not, [target])])
      (named : target.cell? machine.current.scope = some address) : Negates machine address

variable (host : Host) {machine : Machine} {number : Binary64}

theorem BranchesOn.next_eq {value : Value} {offset : Nat}
    (branches : machine.BranchesOn value offset) (converted : value.toDouble = .ok number) :
    (machine.next host).1 = .ok (if number.positive then .jump offset else .next) := by
  rcases branches with ⟨⟨⟨instruction, current, is⟩, -⟩, evaluated, bound⟩
  obtain ⟨middle, -, run⟩ :=
    is.achieves_jumpIfTrue host machine.current.depth evaluated converted bound
  rw [next, Activation.instruction?, current]
  exact congrArg Prod.fst run

theorem Negates.exists_step {address : Address} (negates : machine.Negates address)
    (converted : (machine.shared.memory.lookup address).toDouble = .ok number) :
    ∃ next, machine.step host = .running next ∧
      ((number.IsPositive ∧ ¬number.IsFraction ∧
          next.shared.memory.lookup address = .number .zero) ∨
        ((number.IsPositive → number.IsFraction) ∧
          next.shared.memory.lookup address = .number .one)) := by
  rcases negates with ⟨continues, named⟩
  obtain ⟨integer, integer_eq, nonpos_iff⟩ := Value.exists_toInteger converted
  obtain ⟨middle, next, -, stepped, context_eq, -⟩ :=
    Machine.exists_step host continues fun instruction is =>
      is.achieves_negate host machine.current.depth named integer_eq
  refine ⟨next, stepped, ?_⟩
  rw [lookup_of_cell context_eq]
  by_cases nonpos : integer ≤ 0
  · right
    refine ⟨nonpos_iff.mp nonpos, ?_⟩
    rw [decide_eq_true nonpos, Value.ofBool, Binary64.ofBool, if_pos rfl]
  · left
    obtain ⟨positive, not_fraction⟩ := Classical.not_imp.mp (mt nonpos_iff.mpr nonpos)
    refine ⟨positive, not_fraction, ?_⟩
    rw [decide_eq_false nonpos, Value.ofBool, Binary64.ofBool, if_neg Bool.false_ne_true]

/-- A branch on a value is taken exactly if the negation of the value is zero, unless the value is a
number between zero and one: then the branch is taken, and the negation is one. -/
theorem branch_complements_negation (host : Host) (branching negating : Machine) (value : Value)
    (number : Binary64) (offset : Nat) (address : Address)
    (converted : value.toDouble = .ok number) (branches : branching.BranchesOn value offset)
    (negates : negating.Negates address)
    (held : negating.shared.memory.lookup address = value) :
    ∃ flow next, (branching.next host).1 = .ok flow ∧ negating.step host = .running next ∧
      (flow = .jump offset ∨ flow = .next) ∧
      (next.shared.memory.lookup address = .number .zero ∨
        next.shared.memory.lookup address = .number .one) ∧
      (¬number.IsFraction →
        (flow = .jump offset ↔ next.shared.memory.lookup address = .number .zero)) ∧
      (number.IsFraction →
        flow = .jump offset ∧ next.shared.memory.lookup address = .number .one) := by
  have next_eq := branches.next_eq host converted
  rw [← held] at converted
  obtain ⟨next, stepped, ⟨positive, not_fraction, zero_eq⟩ | ⟨fraction_of_positive, one_eq⟩⟩ :=
    negates.exists_step host converted
  · rw [if_pos (Binary64.positive_iff.mpr positive)] at next_eq
    exact ⟨_, next, next_eq, stepped, .inl rfl, .inl zero_eq, fun _ => by simp [zero_eq],
      fun fraction => absurd fraction not_fraction⟩
  · refine ⟨_, next, next_eq, stepped, ?_, .inr one_eq, fun not_fraction => ?_, fun fraction => ?_⟩
    · split
      · exact .inl rfl
      · exact .inr rfl
    · have not_positive := mt fraction_of_positive not_fraction
      rw [if_neg (mt Binary64.positive_iff.mp not_positive), one_eq]
      simp [Binary64.one_ne_zero]
    · rw [if_pos (Binary64.positive_iff.mpr fraction.isPositive)]
      exact ⟨rfl, one_eq⟩

/-- A program that branches on its argument, and one of its own that negates it. -/
def branchingProgram : Program where
  imports := []
  constants := []
  vars := []
  functions := [⟨0, "main", .exported⟩, ⟨1, "negate", .exported⟩]
  instructions := #[
    .make .label [.label 0],
    .make .jumpIfTrue [.rawAddress 1, .label 1],
    .make .label [.label 1],
    .make .not [.rawAddress 1]]

/-- The program comes to branch on any argument, and to negate it. -/
theorem exists_branching_negating (value : Value) :
    ∃ initial branching initial' negating,
      (Engine.ofProgram branchingProgram).start (.function "main") (some [value]) true =
          .running initial ∧
        initial.run Host.empty 1 = .running branching ∧
        (Engine.ofProgram branchingProgram).start (.function "negate") (some [value]) true =
          .running initial' ∧
        initial'.run Host.empty 1 = .running negating ∧
        branching.BranchesOn value 2 ∧ negating.Negates ⟨1, by decide⟩ ∧
        negating.shared.memory.lookup ⟨1, by decide⟩ = value := by
  have states : ∃ initial branching initial' negating,
      (Engine.ofProgram branchingProgram).start (.function "main") (some [value]) true =
          .running initial ∧
        initial.run Host.empty 1 = .running branching ∧
        (Engine.ofProgram branchingProgram).start (.function "negate") (some [value]) true =
          .running initial' ∧
        initial'.run Host.empty 1 = .running negating ∧
        branching.current.program = branchingProgram ∧ branching.current.offset = 1 ∧
        (Operand.rawAddress 1).evaluate branching.context = .ok value ∧
        branching.current.scope.labelOffset? 1 = some 2 ∧
        negating.current.program = branchingProgram ∧ negating.current.offset = 3 ∧
        negating.shared.memory.lookup ⟨1, by decide⟩ = value :=
    ⟨_, _, _, _, rfl, rfl, rfl, rfl, rfl, rfl, rfl, rfl, rfl, rfl, rfl⟩
  rcases states with ⟨initial, branching, initial', negating, starts, runs, starts', runs',
    program_eq, offset_eq, evaluated, bound, program_eq', offset_eq', held⟩
  refine ⟨initial, branching, initial', negating, starts, runs, starts', runs',
    .intro ?_ evaluated bound, @Negates.intro _ _ (.rawAddress 1) ?_ rfl, held⟩
  · rw [ContinuesWith, program_eq, offset_eq]
    refine ⟨⟨_, rfl, rfl, ?_⟩, trivial⟩
    rintro (_ | _ | _) _ ⟨⟩ <;> rfl
  · rw [ContinuesWith, program_eq', offset_eq']
    refine ⟨⟨_, rfl, rfl, ?_⟩, trivial⟩
    rintro (_ | _) _ ⟨⟩
    rfl

theorem branch_complements_negation_three :
    ∃ branching negating next : Machine,
      branching.BranchesOn (.integer 3) 2 ∧ (branching.next Host.empty).1 = .ok (.jump 2) ∧
        negating.shared.memory.lookup ⟨1, by decide⟩ = .integer 3 ∧
        negating.step Host.empty = .running next ∧
        next.shared.memory.lookup ⟨1, by decide⟩ = .number .zero := by
  obtain ⟨_, branching, _, negating, -, -, -, -, branches, negates, held⟩ :=
    exists_branching_negating (.integer 3)
  have small := Binary64.natAbs_toInt_le_exactBound 3
  have next_eq := branches.next_eq Host.empty rfl
  rw [if_pos (Binary64.positive_iff.mpr ((Binary64.isPositive_ofInt small).mpr (by decide)))]
    at next_eq
  obtain ⟨flow, next, flow_eq, stepped, -, -, complements, -⟩ :=
    branch_complements_negation Host.empty branching negating (.integer 3) _ 2 ⟨1, by decide⟩ rfl
      branches negates held
  cases flow_eq.symm.trans next_eq
  exact ⟨branching, negating, next, branches, next_eq, held, stepped,
    (complements (Binary64.not_isFraction_ofInt small)).mp rfl⟩

/-- A branch on a half is taken, and its negation is not zero. -/
theorem not_complementary_half :
    ¬∀ (host : Host) (branching negating : Machine) (value : Value) (number : Binary64)
      (offset : Nat) (address : Address), value.toDouble = .ok number →
      branching.BranchesOn value offset → negating.Negates address →
      negating.shared.memory.lookup address = value →
      ∃ flow next, (branching.next host).1 = .ok flow ∧ negating.step host = .running next ∧
        (flow = .jump offset ↔ next.shared.memory.lookup address = .number .zero) := by
  intro complements
  have fraction := Binary64.isFraction_half
  obtain ⟨_, branching, _, negating, -, -, -, -, branches, negates, held⟩ :=
    exists_branching_negating (.number .half)
  have next_eq := branches.next_eq Host.empty rfl
  rw [if_pos (Binary64.positive_iff.mpr fraction.isPositive)] at next_eq
  obtain ⟨flow, next, flow_eq, stepped, complements⟩ :=
    complements Host.empty branching negating (.number .half) .half 2 ⟨1, by decide⟩ rfl branches
      negates held
  cases flow_eq.symm.trans next_eq
  obtain ⟨_, stepped', ⟨-, not_fraction, -⟩ | ⟨-, one_eq⟩⟩ := negates.exists_step Host.empty
    (congrArg Value.toDouble held)
  · exact not_fraction fraction
  · cases stepped.symm.trans stepped'
    exact Binary64.one_ne_zero (Value.number.inj (one_eq.symm.trans (complements.mp rfl)))

end Machine

end ScriptMachine
