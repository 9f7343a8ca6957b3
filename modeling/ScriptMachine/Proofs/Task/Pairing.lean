import ScriptMachine.Task

/-!
# Pairs of tasks

Two tasks are alike for a relation of states if from related states both end with results that are
related and leave related states, or both refuse with one fault.  What is done to the state before a
fault need not be related.

A relation of states that composed tasks keep is followed through their parts, without looking at
how they are composed.  The results of earlier parts are values that may differ from one task to the
other, so that their later parts are different tasks as well.
-/

namespace ScriptMachine

namespace Task

variable {σ τ α β γ δ : Type}

/-- From two states both tasks end with results and states as stated, or by the same fault. -/
def Pairs (left : Task σ α) (right : Task τ β) (state : σ) (other : τ) (states : σ → τ → Prop)
    (results : α → β → Prop) : Prop :=
  match left.run state, right.run other with
  | (.ok value, after), (.ok otherValue, otherAfter) =>
      results value otherValue ∧ states after otherAfter
  | (.error cause, _), (.error otherCause, _) => cause = otherCause
  | _, _ => False

/-- From related states both tasks end with related states and results, or by the same fault. -/
def Alike (states : σ → τ → Prop) (results : α → β → Prop) (left : Task σ α) (right : Task τ β) :
    Prop :=
  ∀ state other, states state other → left.Pairs right state other states results

variable {left : Task σ α} {right : Task τ β} {next : α → Task σ γ} {otherNext : β → Task τ δ}
  {state : σ} {other : τ} {states : σ → τ → Prop} {results results' : α → β → Prop}
  {final : γ → δ → Prop}

theorem pairs_of_run_ok {value : α} {otherValue : β} {after : σ} {otherAfter : τ}
    (run : left.run state = (.ok value, after))
    (otherRun : right.run other = (.ok otherValue, otherAfter))
    (ends : results value otherValue ∧ states after otherAfter) :
    left.Pairs right state other states results := by
  unfold Pairs
  rw [run, otherRun]
  exact ends

theorem pairs_of_run_error {cause : Fault} {after : σ} {otherAfter : τ}
    (run : left.run state = (.error cause, after))
    (otherRun : right.run other = (.error cause, otherAfter)) :
    left.Pairs right state other states results := by
  unfold Pairs
  rw [run, otherRun]

/-- The two ways in which a pair of tasks ends. -/
theorem Pairs.ends (pairs : left.Pairs right state other states results) :
    (∃ value otherValue after otherAfter, left.run state = (.ok value, after) ∧
      right.run other = (.ok otherValue, otherAfter) ∧ results value otherValue ∧
        states after otherAfter) ∨
    ∃ cause after otherAfter, left.run state = (.error cause, after) ∧
      right.run other = (.error cause, otherAfter) := by
  unfold Pairs at pairs
  split at pairs
  · rename_i run otherRun
    exact .inl ⟨_, _, _, _, run, otherRun, pairs⟩
  · rename_i run otherRun
    subst pairs
    exact .inr ⟨_, _, _, run, otherRun⟩
  · exact pairs.elim

theorem Pairs.bind (first : left.Pairs right state other states results)
    (second : ∀ value otherValue after otherAfter, results value otherValue →
      states after otherAfter → left.run state = (.ok value, after) →
        (next value).Pairs (otherNext otherValue) after otherAfter states final) :
    (left >>= next).Pairs (right >>= otherNext) state other states final := by
  rcases first.ends with ⟨value, otherValue, after, otherAfter, run, otherRun, related, kept⟩ |
    ⟨cause, after, otherAfter, run, otherRun⟩
  · have rest := second value otherValue after otherAfter related kept run
    unfold Pairs at rest ⊢
    rw [run_bind, run_bind, run, otherRun]
    exact rest
  · apply pairs_of_run_error
    · rw [run_bind, run]
    · rw [run_bind, otherRun]

/-! ## Parts of tasks -/

theorem Alike.bind (first : Alike states results left right)
    (second : ∀ value otherValue, results value otherValue →
      Alike states final (next value) (otherNext otherValue)) :
    Alike states final (left >>= next) (right >>= otherNext) := by
  intro state other kept
  apply (first state other kept).bind
  intro value otherValue after otherAfter related keptAfter _
  exact second value otherValue related after otherAfter keptAfter

theorem alike_pure {value : α} {otherValue : β} (related : results value otherValue) :
    Alike states results (pure value) (pure otherValue) :=
  fun state other kept =>
    pairs_of_run_ok (run_pure value state) (run_pure otherValue other) ⟨related, kept⟩

theorem alike_throw (cause : Fault) : Alike states results (throw cause) (throw cause) :=
  fun state other _ => pairs_of_run_error (run_throw cause state) (run_throw cause other)

theorem alike_get : Alike states states get get :=
  fun state other kept => pairs_of_run_ok (run_get state) (run_get other) ⟨kept, kept⟩

theorem alike_modify {change : σ → σ} {otherChange : τ → τ}
    (keeps : ∀ state other, states state other → states (change state) (otherChange other)) :
    Alike states (fun _ _ => True) (modify change) (modify otherChange) :=
  fun state other kept =>
    pairs_of_run_ok (run_modify change state) (run_modify otherChange other)
      ⟨trivial, keeps state other kept⟩

theorem alike_ofUpdate {update : σ → α × σ} {otherUpdate : τ → β × τ}
    (updates : ∀ state other, states state other →
      results (update state).1 (otherUpdate other).1 ∧
        states (update state).2 (otherUpdate other).2) :
    Alike states results (ofUpdate update) (ofUpdate otherUpdate) :=
  fun state other kept =>
    pairs_of_run_ok (run_ofUpdate update state) (run_ofUpdate otherUpdate other)
      (updates state other kept)

/-- One conversion has one result. -/
theorem alike_ofConversion (conversion : Except Mismatch α) :
    Alike states Eq (ofConversion conversion) (ofConversion conversion) := by
  cases conversion with
  | ok value => exact alike_pure rfl
  | error mismatch => exact alike_throw (.typeMismatch mismatch)

theorem Alike.map (alike : Alike states results left right) {change : α → γ}
    {otherChange : β → δ}
    (changes : ∀ value otherValue, results value otherValue →
      final (change value) (otherChange otherValue)) :
    Alike states final (change <$> left) (otherChange <$> right) := by
  rw [map_eq_pure_bind, map_eq_pure_bind]
  exact alike.bind fun value otherValue related => alike_pure (changes value otherValue related)

/-- Tasks on parts of states are alike if they are so on the parts. -/
theorem Alike.within {ρ ω : Type} {part : ρ → σ} {otherPart : ω → τ} {replace : σ → ρ → ρ}
    {otherReplace : τ → ω → ω} {wholes : ρ → ω → Prop}
    (alike : Alike states results left right)
    (parts : ∀ whole other, wholes whole other → states (part whole) (otherPart other))
    (replaces : ∀ whole other, wholes whole other → ∀ state otherState,
      states state otherState → wholes (replace state whole) (otherReplace otherState other)) :
    Alike wholes results (within part replace left) (within otherPart otherReplace right) := by
  intro whole other kept
  have run := run_within part replace left whole
  have otherRun := run_within otherPart otherReplace right other
  rcases (alike _ _ (parts whole other kept)).ends with
    ⟨_, _, _, _, partRun, otherPartRun, related, keptAfter⟩ | ⟨_, _, _, partRun, otherPartRun⟩
  · rw [partRun] at run
    rw [otherPartRun] at otherRun
    exact pairs_of_run_ok run otherRun ⟨related, replaces whole other kept _ _ keptAfter⟩
  · rw [partRun] at run
    rw [otherPartRun] at otherRun
    exact pairs_of_run_error run otherRun

end Task

end ScriptMachine
