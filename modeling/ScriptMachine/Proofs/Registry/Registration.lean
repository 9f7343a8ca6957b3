import ScriptMachine.Library.Registry

/-!
# Registration

What a registry holds after names have been registered in order: what it held before, and then
the first registration of a name.
-/

namespace ScriptMachine

namespace Registry

theorem lookup_cons (entry : String × Linked) (rest : List (String × Linked)) (name : String) :
    (entry :: rest).lookup name =
      (if name = entry.1 then some entry.2 else none).or (rest.lookup name) := by
  obtain ⟨key, linked⟩ := entry
  rw [List.lookup_cons]
  by_cases same : name = key
  · simp [same]
  · simp [same, beq_eq_false_iff_ne.mpr same]

/-- A name that is registered keeps what it is registered for. -/
theorem get?_register (registry : Registry) (name other : String) (linked : Linked) :
    (registry.register name linked).get? other =
      (registry.get? other).or (if other = name then some linked else none) := by
  unfold register
  split
  · rename_i contains
    by_cases same : other = name
    · subst same
      obtain ⟨found, found_eq⟩ := Option.isSome_iff_exists.mp contains
      rw [found_eq, Option.some_or]
    · rw [if_neg same, Option.or_none]
  · rw [get?, List.lookup_append, lookup_cons]
    exact congrArg ((registry.get? other).or ·) (Option.or_none ..)

/-- The first registration of a name counts, and what is registered before counts first. -/
theorem get?_registerAll (registry : Registry) (entries : List (String × Linked)) (name : String) :
    (registry.registerAll entries).get? name =
      (registry.get? name).or (entries.lookup name) := by
  induction entries generalizing registry with
  | nil => exact (Option.or_none ..).symm
  | cons first rest ih =>
      have later := ih (registry.register first.1 first.2)
      rw [get?_register, Option.or_assoc] at later
      rw [lookup_cons]
      exact later

theorem registerAll_append (registry : Registry) (first second : List (String × Linked)) :
    registry.registerAll (first ++ second) = (registry.registerAll first).registerAll second :=
  List.foldl_append

end Registry

end ScriptMachine
