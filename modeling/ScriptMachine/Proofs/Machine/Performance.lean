import ScriptMachine.Proofs.Machine.Effect

/-!
# Performances of instructions

Every performance of an instruction acts as `Instruction.Does` and `Instruction.Refuses`
say.  Nearly all opcodes store a plain value to their first operand after some inspections;
the others are calls, jumps and the few that make pointers, lists and objects.
-/

namespace ScriptMachine

/-! ## Plain results -/

namespace Value

theorem isPlain_ofBool (value : Bool) : (ofBool value).IsPlain := trivial

theorem isPlain_ofAddress (address : Option Address) : (ofAddress address).IsPlain := by
  cases address <;> trivial

theorem isPlain_of_rounded {operation : Binary64 → Binary64 → Binary64} {left right result : Value}
    (rounds : rounded operation left right = .ok result) : result.IsPlain := by
  unfold rounded at rounds
  cases leftNumber : left.toDouble with
  | error => simp [leftNumber, bind, Except.bind] at rounds
  | ok =>
      cases rightNumber : right.toDouble with
      | error => simp [leftNumber, rightNumber, bind, Except.bind] at rounds
      | ok =>
          simp only [leftNumber, rightNumber, bind, Except.bind, pure, Except.pure,
            Except.ok.injEq] at rounds
          subst result
          trivial

theorem isPlain_of_exactly? {operation : Int → Int → Int} {left right result : Value}
    (exact : exactly? operation left right = some result) : result.IsPlain := by
  unfold exactly? ofInt32? at exact
  split at exact
  · split at exact
    · obtain rfl := Option.some.inj exact
      trivial
    · contradiction
  · contradiction

theorem isPlain_of_exactlyOrRounded {exact : Int → Int → Int}
    {operation : Binary64 → Binary64 → Binary64} {left right result : Value}
    (computed : exactlyOrRounded exact operation left right = .ok result) : result.IsPlain := by
  unfold exactlyOrRounded at computed
  split at computed
  · rename_i found
    obtain rfl := Except.ok.inj computed
    exact isPlain_of_exactly? found
  · exact isPlain_of_rounded computed

end Value

/-! ## Storing after inspections -/

/-- The effect of storing some plain value to an operand. -/
def Operand.ReceivesPlain (scope : Scope) (target : Operand) (effect : Effect) : Prop :=
  ∃ value : Value, value.IsPlain ∧ target.Receives scope value effect

section Actions

variable {origin context : Context} (target : Operand)

theorem acts_store_plain {value : Value} (growth : origin.GrowsTo context)
    (isPlain : value.IsPlain) :
    (target.store value).Acts origin context
      (fun _ => target.ReceivesPlain origin.scope) Fault.OfOperand :=
  (target.acts_store value growth).mono
    (fun _ _ ⟨middle, effect, grown, receives, after_eq⟩ =>
      ⟨middle, effect, grown, ⟨value, isPlain, receives⟩, after_eq⟩)
    (fun _ _ refused => refused)

/-- A plain value that is computed from what an inspection gives can be stored. -/
theorem Task.Inspects.acts_store_plain {α : Type} {task : Task Context α} {inspected : α → Prop}
    (growth : origin.GrowsTo context) (first : task.Inspects context inspected)
    (value : α → Value) (isPlain : ∀ given, (value given).IsPlain) :
    (do target.store (value (← task))).Acts origin context
      (fun _ => target.ReceivesPlain origin.scope) Fault.OfOperand := by
  apply first.acts_bind growth (fun _ ofOperand => ofOperand)
  intro given after padded _
  exact ScriptMachine.acts_store_plain target (growth.trans padded.growsTo) (isPlain given)

namespace Instruction

variable (context)

theorem acts_loadAddress (source : Operand) :
    (loadAddress target source).Acts context context
      (fun _ => target.ReceivesPlain context.scope) Fault.OfOperand := by
  have growth := Context.GrowsTo.refl context
  cases source with
  | «variable» index =>
      exact (Operand.inspects_variableAddress context index).acts_store_plain target growth
        Value.ofAddress Value.isPlain_ofAddress
  | _ => exact acts_throw growth trivial

theorem acts_listSlotAddress (list index : Operand) :
    (listSlotAddress target list index).Acts context context
      (fun _ => target.ReceivesPlain context.scope) Fault.OfOperand := by
  have growth := Context.GrowsTo.refl context
  have stored : (do
      let handle ← list.loadList
      let index ← index.loadIndex
      let address ← pure ((← get).shared.memory.slot handle index)
      target.store (.ofAddress address) : Task Context Unit).Acts context context
        (fun _ => target.ReceivesPlain context.scope) Fault.OfOperand := by
    apply (Operand.inspects_loadList context list).acts_bind growth (fun _ ofOperand => ofOperand)
    intro handle afterList padded _
    have growth := growth.trans padded.growsTo
    apply (Operand.inspects_loadIndex afterList index).acts_bind growth
      (fun _ ofOperand => ofOperand)
    intro index afterIndex padded _
    have growth := growth.trans padded.growsTo
    apply (inspects_get afterIndex).acts_bind growth (fun _ ofOperand => ofOperand)
    rintro _ _ padded rfl
    exact acts_store_plain target (growth.trans padded.growsTo) (Value.isPlain_ofAddress _)
  cases index with
  | none =>
      exact (Operand.inspects_address context list).acts_store_plain target growth
        Value.ofAddress Value.isPlain_ofAddress
  | _ => exact stored

theorem acts_indexOf (list text : Operand) :
    (indexOf target list text).Acts context context
      (fun _ => target.ReceivesPlain context.scope) Fault.OfOperand := by
  have growth := Context.GrowsTo.refl context
  apply (Operand.inspects_loadList context list).acts_bind growth (fun _ ofOperand => ofOperand)
  intro handle afterList padded _
  have growth := growth.trans padded.growsTo
  apply (Operand.inspects_load_conversion afterList text Value.toText).acts_bind growth
    (fun _ ofOperand => ofOperand)
  intro text afterText padded _
  have growth := growth.trans padded.growsTo
  apply (inspects_onMemory afterText (Memory.paddedTo_indexOf · handle text)).acts_bind growth
    (fun _ ofOperand => ofOperand)
  intro index afterSearch padded _
  exact acts_store_plain target (growth.trans padded.growsTo) trivial

theorem acts_join (list : Operand) :
    (join target list).Acts context context
      (fun _ => target.ReceivesPlain context.scope) Fault.OfOperand := by
  have growth := Context.GrowsTo.refl context
  apply (Operand.inspects_loadList context list).acts_bind growth (fun _ ofOperand => ofOperand)
  intro handle afterList padded _
  have growth := growth.trans padded.growsTo
  exact (inspects_onMemory_ofAttempt afterList
    (Memory.paddedTo_join · handle)).acts_store_plain target growth Value.text fun _ => trivial

theorem acts_count (source : Operand) :
    (count target source).Acts context context
      (fun _ => target.ReceivesPlain context.scope) Fault.OfOperand := by
  have growth := Context.GrowsTo.refl context
  apply (Operand.inspects_load context source).acts_bind growth (fun _ ofOperand => ofOperand)
  intro value after padded _
  have growth := growth.trans padded.growsTo
  have sized : (do
      let size ← Task.ofConversion ((← get).shared.memory.sizeOf value)
      target.store (.number (.ofInt size)) : Task Context Unit).Acts context after
        (fun _ => target.ReceivesPlain context.scope) Fault.OfOperand := by
    apply (inspects_get after).acts_bind growth (fun _ ofOperand => ofOperand)
    rintro _ afterGet padded rfl
    exact (inspects_ofConversion afterGet _).acts_store_plain target
      (growth.trans padded.growsTo) (fun size : Nat => .number (.ofInt size)) fun _ => trivial
  cases value with
  | object cells =>
      exact (inspects_length after cells).acts_store_plain target growth
        (fun size : Nat => .number (.ofInt size)) fun _ => trivial
  | list | text => exact sized
  | _ => exact acts_throw growth trivial

theorem acts_convert (operation : Binary64 → Binary64) (source : Operand) :
    (convert operation target source).Acts context context
      (fun _ => target.ReceivesPlain context.scope) Fault.OfOperand :=
  (Operand.inspects_loadDouble context source).acts_store_plain target (.refl context)
    (fun number => .number (operation number)) fun _ => trivial

theorem acts_update {operation : Value → Value → Except Mismatch Value}
    (isPlain : ∀ left right result, operation left right = .ok result → result.IsPlain)
    (source : Operand) :
    (update operation target source).Acts context context
      (fun _ => target.ReceivesPlain context.scope) Fault.OfOperand := by
  have growth := Context.GrowsTo.refl context
  apply (Operand.inspects_load context target).acts_bind growth (fun _ ofOperand => ofOperand)
  intro current afterTarget padded _
  have growth := growth.trans padded.growsTo
  apply (Operand.inspects_load afterTarget source).acts_bind growth (fun _ ofOperand => ofOperand)
  intro operand afterSource padded _
  have growth := growth.trans padded.growsTo
  apply (inspects_ofConversion afterSource (operation current operand)).acts_bind growth
    (fun _ ofOperand => ofOperand)
  intro result afterResult padded computed
  exact acts_store_plain target (growth.trans padded.growsTo) (isPlain _ _ _ computed)

theorem acts_updateBits (operation : Int32 → Int32 → Int32) (source : Operand) :
    (updateBits operation target source).Acts context context
      (fun _ => target.ReceivesPlain context.scope) Fault.OfOperand := by
  have growth := Context.GrowsTo.refl context
  apply (Operand.inspects_load_conversion context target Value.toInteger).acts_bind growth
    (fun _ ofOperand => ofOperand)
  intro current after padded _
  exact (Operand.inspects_load_conversion after source Value.toInteger).acts_store_plain target
    (growth.trans padded.growsTo) (fun other => .number (.ofInt (operation current other).toInt))
    fun _ => trivial

theorem acts_negate :
    (negate target).Acts context context
      (fun _ => target.ReceivesPlain context.scope) Fault.OfOperand :=
  (Operand.inspects_load_conversion context target Value.toInteger).acts_store_plain target
    (.refl context) (fun value => .ofBool (value ≤ 0)) fun _ => Value.isPlain_ofBool _

theorem acts_compare (relation : Binary64 → Binary64 → Bool) (left right : Operand) :
    (compare relation target left right).Acts context context
      (fun _ => target.ReceivesPlain context.scope) Fault.OfOperand := by
  have growth := Context.GrowsTo.refl context
  apply (Operand.inspects_loadDouble context left).acts_bind growth (fun _ ofOperand => ofOperand)
  intro number after padded _
  exact (Operand.inspects_loadDouble after right).acts_store_plain target
    (growth.trans padded.growsTo) (fun other => .ofBool (relation number other))
    fun _ => Value.isPlain_ofBool _

/-- Comparing operands is an inspection. -/
theorem inspects_operandsEqual (left right : Operand) :
    (operandsEqual left right).Inspects context fun _ => True := by
  unfold operandsEqual
  split
  · exact inspects_pure context trivial
  · split
    · apply (Operand.inspects_load context left).bind
      intro leftValue afterLeft _ _
      apply (Operand.inspects_load afterLeft right).bind
      intro rightValue afterRight _ _
      exact inspects_pure afterRight trivial
    · apply (Operand.inspects_address context left).bind
      intro leftAddress afterLeft _ _
      apply (Operand.inspects_address afterLeft right).bind
      intro rightAddress afterRight _ _
      split
      · exact inspects_pure afterRight trivial
      · split
        · exact inspects_pure afterRight trivial
        · rename_i leftAddress rightAddress _
          apply (inspects_onMemory afterRight (Memory.paddedTo_extend · leftAddress)).bind
          intro leftValue afterReadLeft _ _
          apply (inspects_onMemory afterReadLeft (Memory.paddedTo_extend · rightAddress)).bind
          intro rightValue afterReadRight _ _
          exact inspects_pure afterReadRight trivial
      · exact inspects_pure afterRight trivial

/-- Looking for the arguments of a host function is an inspection. -/
theorem inspects_callArguments : callArguments.Inspects context (· = context.arguments) := by
  apply (inspects_get context).bind
  intro current after padded current_eq
  rw [current_eq]
  unfold Context.arguments
  cases Address.ofRaw? (context.shared.registers.get 0) with
  | none => exact inspects_pure after rfl
  | some address =>
      apply (inspects_listAt after address).bind
      intro handle afterList paddedList found
      have memory_padded := (padded.trans paddedList).memory
      rw [padded.memory.lookup_eq] at found
      apply (inspects_onMemory afterList (Memory.paddedTo_elements · handle)).weaken
      rintro _ rfl
      cases value_eq : context.shared.memory.lookup address with
      | list other =>
          rw [value_eq] at found
          obtain rfl := Except.ok.inj found
          simp only [Memory.elements, Memory.fst_readSlots, memory_padded.slots_eq, value_eq]
          exact List.map_congr_left fun slot _ => memory_padded.lookupSlot_eq slot
      | _ =>
          rw [value_eq] at found
          contradiction

end Instruction

end Actions

/-! ## All instructions -/

namespace Instruction

variable (instruction : Instruction) (host : Host) (depth : Nat) (context : Context)

/-- Instructions that store a plain value. -/
theorem acts_of_receivesPlain {task : Task Context Unit}
    (stores : instruction.opcode.stores = true)
    (acts : task.Acts context context
      (fun _ => (instruction.operand 0).ReceivesPlain context.scope) Fault.OfOperand) :
    (do task; return Flow.next).Acts context context (instruction.Does host depth context)
      (instruction.Refuses host depth context) := by
  apply Task.Acts.then_pure (acts.mono (fun _ _ acted => acted) _)
  · rintro _ effect ⟨value, isPlain, receives⟩
    exact .store stores (.plain isPlain) receives
  · rintro cause after ⟨growth, ofOperand⟩
    exact ⟨growth, .operand ofOperand⟩

theorem acts_move (stores : instruction.opcode.stores = true) :
    (do (instruction.operand 0).store (← (instruction.operand 1).load); return Flow.next).Acts
      context context (instruction.Does host depth context)
      (instruction.Refuses host depth context) := by
  apply (Operand.inspects_load context _).acts_bind (.refl context) (fun _ => .operand)
  intro value after padded evaluated
  apply Task.Acts.then_pure
    (((instruction.operand 0).acts_store value padded.growsTo).mono (fun _ _ acted => acted) _)
  · intro _ effect receives
    exact .store stores (.copy evaluated) receives
  · rintro cause after ⟨growth, ofOperand⟩
    exact ⟨growth, .operand ofOperand⟩

/-- Storing a value that memory has grown by. -/
theorem acts_store_new {after : Context} {value : Value}
    (stores : instruction.opcode.stores = true) (growth : context.GrowsTo after)
    (newTo : value.NewTo context.shared.memory) :
    (do (instruction.operand 0).store value; return Flow.next).Acts
      context after (instruction.Does host depth context)
      (instruction.Refuses host depth context) := by
  apply Task.Acts.then_pure
    (((instruction.operand 0).acts_store value growth).mono (fun _ _ acted => acted) _)
  · intro _ effect receives
    exact .store stores (.new newTo) receives
  · rintro cause after ⟨growth, ofOperand⟩
    exact ⟨growth, .operand ofOperand⟩

theorem acts_newList (stores : instruction.opcode.stores = true) :
    (do newList (instruction.operand 0); return Flow.next).Acts context context
      (instruction.Does host depth context) (instruction.Refuses host depth context) := by
  have growth := (Memory.GrowsTo.refl context.shared.memory).newList
  unfold newList
  rw [bind_assoc]
  apply Task.ends_bind.mpr (Task.ends_within.mpr ((Task.ends_ofUpdate _).mpr _))
  exact instruction.acts_store_new host depth context stores (.withMemory growth)
    (.list (Nat.le_refl _))

theorem acts_newObject (stores : instruction.opcode.stores = true) :
    (do newObject (instruction.operand 0); return Flow.next).Acts context context
      (instruction.Does host depth context) (instruction.Refuses host depth context) := by
  have growth := (Memory.GrowsTo.refl context.shared.memory).createObject
  have padded := Memory.paddedTo_extend context.shared.memory.createObject.2
    context.shared.memory.createObject.1
  unfold newObject
  simp only [bind_assoc]
  apply Task.ends_bind.mpr (Task.ends_within.mpr ((Task.ends_ofUpdate _).mpr _))
  apply Task.ends_bind.mpr (Task.ends_within.mpr ((Task.ends_ofUpdate _).mpr _))
  exact instruction.acts_store_new host depth context stores
    (.withMemory (growth.trans padded.growsTo)) (Memory.lookup_createObject _)

theorem acts_makePointer (opcode_eq : instruction.opcode = .makePointer) :
    (do makePointer (instruction.operand 0) (instruction.operand 1); return Flow.next).Acts
      context context (instruction.Does host depth context)
      (instruction.Refuses host depth context) := by
  have growth := Context.GrowsTo.refl context
  unfold makePointer
  cases target_eq : instruction.operand 0 with
  | «variable» index =>
      cases source_eq : instruction.operand 1 with
      | none =>
          have grown := (Memory.GrowsTo.refl context.shared.memory).allocate .none
          simp only [map_eq_pure_bind, bind_assoc, pure_bind]
          apply Task.ends_bind.mpr (Task.ends_within.mpr ((Task.ends_ofUpdate _).mpr _))
          exact acts_modify (.withMemory grown) (.newPointer opcode_eq target_eq source_eq rfl) rfl
      | _ =>
          simp only [map_eq_pure_bind, bind_assoc, pure_bind]
          apply (Operand.inspects_load_conversion context _ Value.toLong).acts_bind growth
            (fun _ => .operand)
          rintro raw after padded ⟨value, evaluated, converted⟩
          have source_ne : instruction.operand 1 ≠ .none := by simp [source_eq]
          rw [← source_eq] at evaluated
          exact acts_modify padded.growsTo
            (.pointer opcode_eq target_eq source_ne evaluated converted) rfl
  | _ => exact acts_throw growth (.operand trivial)

theorem acts_setListSlot (opcode_eq : instruction.opcode = .setListSlot) :
    (do
      setListSlot (instruction.operand 0) (instruction.operand 1) (instruction.operand 2)
      return Flow.next).Acts context context (instruction.Does host depth context)
        (instruction.Refuses host depth context) := by
  have growth := Context.GrowsTo.refl context
  unfold setListSlot
  simp only [bind_assoc]
  apply (Operand.inspects_loadList context _).acts_bind growth (fun _ => .operand)
  intro handle afterList paddedList list_evaluated
  have grownList := growth.trans paddedList.growsTo
  apply (Operand.inspects_loadIndex afterList _).acts_bind grownList (fun _ => .operand)
  rintro index afterIndex paddedIndex
    ⟨indexValue, integer, index_evaluated, index_converted, index_eq⟩
  have paddedBoth := paddedList.trans paddedIndex
  rw [Operand.evaluate_of_paddedTo paddedList] at index_evaluated
  apply (Operand.inspects_load_conversion afterIndex _ Value.toLong).acts_bind
    (growth.trans paddedBoth.growsTo) (fun _ => .operand)
  rintro raw afterAddress paddedAddress ⟨addressValue, address_evaluated, address_converted⟩
  rw [Operand.evaluate_of_paddedTo paddedBoth] at address_evaluated
  apply Task.ends_bind.mpr (Task.ends_within.mpr ((Task.ends_modify _).mpr _))
  exact (Task.ends_pure _).mpr ⟨_, _, (paddedBoth.trans paddedAddress).growsTo,
    .slot opcode_eq list_evaluated index_evaluated index_converted index_eq address_evaluated
      address_converted, rfl⟩

/-! ### Calls and jumps -/

theorem acts_jump {operand : Operand}
    (jumps : ∀ label, operand = .label label → instruction.Jumps context label)
    {after : Context} (padded : context.PaddedTo after) :
    (do return Flow.jump (← operand.labelOffset)).Acts context after
      (instruction.Does host depth context) (instruction.Refuses host depth context) := by
  apply (Operand.inspects_labelOffset after operand).acts_bind padded.growsTo (fun _ => .operand)
  rintro offset afterLabel paddedLabel ⟨label, operand_eq, bound⟩
  rw [padded.scope_eq] at bound
  exact acts_pure (padded.trans paddedLabel).growsTo (.jump (jumps label operand_eq) bound)

theorem acts_jumpIfTrue (opcode_eq : instruction.opcode = .jumpIfTrue) :
    (do
      let condition ← (instruction.operand 0).loadDouble
      if condition.positive then return Flow.jump (← (instruction.operand 1).labelOffset)
      else return Flow.next).Acts context context (instruction.Does host depth context)
        (instruction.Refuses host depth context) := by
  apply (Operand.inspects_loadDouble context _).acts_bind (.refl context) (fun _ => .operand)
  rintro condition after padded ⟨value, evaluated, converted⟩
  split
  · rename_i positive
    apply instruction.acts_jump host depth context _ padded
    exact fun label operand_eq => .jumpIfTrue opcode_eq evaluated converted positive operand_eq
  · rename_i not_positive
    exact acts_pure padded.growsTo
      (.pass opcode_eq evaluated converted (Bool.eq_false_iff.mpr not_positive))

section Calls

variable {instruction host depth context} {origin : Context}

/-- Room for a call below is all that is checked. -/
theorem acts_checkDepth_bind {flow : Flow} (growth : origin.GrowsTo context)
    (calls : depth + 1 < host.maxDepth → instruction.Does host depth origin flow .none)
    (refuses : host.maxDepth ≤ depth + 1 → instruction.Refuses host depth origin .stackOverflow) :
    (do checkDepth host depth; return flow).Acts origin context
      (instruction.Does host depth origin) (instruction.Refuses host depth origin) := by
  unfold checkDepth
  split
  · rename_i depth_ge
    exact acts_throw growth (refuses depth_ge)
  · rename_i depth_lt
    exact acts_pure growth (calls (Nat.lt_of_not_le depth_lt))

theorem acts_callNative (opcode_eq : instruction.opcode = .call) {id : NativeId} {name : String}
    (named : (instruction.operand 1).Names origin (.native id))
    (padded : origin.PaddedTo context) :
    (callNative host name id).Acts origin context (instruction.Does host depth origin)
      (instruction.Refuses host depth origin) := by
  unfold callNative
  cases found : host.native? id with
  | none => exact acts_throw padded.growsTo (.unknownNativeFunction opcode_eq named found)
  | some function =>
      apply (inspects_callArguments context).acts_bind padded.growsTo (fun _ => .operand)
      rintro _ after paddedAfter rfl
      rw [Context.arguments_of_paddedTo padded]
      exact acts_pure (padded.trans paddedAfter).growsTo (.call opcode_eq (.native named found))

theorem acts_callLibrary (opcode_eq : instruction.opcode = .call) {reference : FunctionReference}
    (named : (instruction.operand 1).Names origin (.library reference))
    (padded : origin.PaddedTo context) :
    (callLibrary host depth reference).Acts origin context (instruction.Does host depth origin)
      (instruction.Refuses host depth origin) := by
  have libraries_eq := padded.growsTo.libraries_eq
  unfold callLibrary
  apply (inspects_get context).acts_bind padded.growsTo (fun _ => .operand)
  intro current after paddedAfter current_eq
  rw [current_eq, libraries_eq]
  have growth := (padded.trans paddedAfter).growsTo
  cases found : origin.shared.libraries.get? reference.library with
  | none => exact acts_throw growth (.unknownLibrary opcode_eq named found)
  | some library =>
      exact acts_checkDepth_bind growth
        (fun depth_lt => .call opcode_eq (.library named found depth_lt))
        (fun depth_ge => .libraryTooDeep opcode_eq named found depth_ge)

end Calls

theorem acts_call (opcode_eq : instruction.opcode = .call) :
    (call host depth (instruction.operand 1)).Acts context context
      (instruction.Does host depth context) (instruction.Refuses host depth context) := by
  have growth := Context.GrowsTo.refl context
  unfold call
  split
  · apply (Operand.inspects_labelOffset context _).acts_bind growth (fun _ => .operand)
    rintro offset after padded ⟨label, label_eq, bound⟩
    exact acts_checkDepth_bind padded.growsTo
      (fun depth_lt => .call opcode_eq (.label label_eq bound depth_lt))
      (fun depth_ge => .labelTooDeep opcode_eq label_eq bound depth_ge)
  · apply (Operand.inspects_load context _).acts_bind growth (fun _ => .operand)
    intro value after padded evaluated
    cases value with
    | text name =>
        apply (inspects_get after).acts_bind padded.growsTo (fun _ => .operand)
        intro current afterGet paddedGet current_eq
        have paddedBoth := padded.trans paddedGet
        rw [current_eq, padded.growsTo.registry_eq]
        cases found : context.shared.registry.get? name with
        | none => exact acts_throw paddedBoth.growsTo (.unknownFunction opcode_eq evaluated found)
        | some linked =>
            cases linked with
            | native id => exact acts_callNative opcode_eq (.text evaluated found) paddedBoth
            | library reference =>
                exact acts_callLibrary opcode_eq (.text evaluated found) paddedBoth
    | nativeFunction id => exact acts_callNative opcode_eq (.native evaluated) padded
    | function reference => exact acts_callLibrary opcode_eq (.function evaluated) padded
    | _ => exact acts_throw padded.growsTo (.operand trivial)

/-- Every performance of an instruction is as stated. -/
theorem perform_acts :
    (instruction.perform host depth).Acts context context (instruction.Does host depth context)
      (instruction.Refuses host depth context) := by
  have growth := Context.GrowsTo.refl context
  have plain {task : Task Context Unit} (stores : instruction.opcode.stores = true)
      (acts : task.Acts context context
        (fun _ => (instruction.operand 0).ReceivesPlain context.scope) Fault.OfOperand) :=
    instruction.acts_of_receivesPlain host depth context stores acts
  unfold perform
  cases opcode_eq : instruction.opcode with
  | nop => exact acts_pure growth (.nothing (.inl opcode_eq))
  | label => exact acts_pure growth (.nothing (.inr opcode_eq))
  | move => exact instruction.acts_move host depth context (by rw [opcode_eq]; rfl)
  | makePointer => exact instruction.acts_makePointer host depth context opcode_eq
  | setListSlot => exact instruction.acts_setListSlot host depth context opcode_eq
  | newList => exact instruction.acts_newList host depth context (by rw [opcode_eq]; rfl)
  | newObject => exact instruction.acts_newObject host depth context (by rw [opcode_eq]; rfl)
  | jump =>
      exact instruction.acts_jump host depth context (fun _ => .jump opcode_eq) (.refl context)
  | jumpIfTrue => exact instruction.acts_jumpIfTrue host depth context opcode_eq
  | call => exact instruction.acts_call host depth context opcode_eq
  | ret =>
      apply (Operand.inspects_load context _).acts_bind growth (fun _ => .operand)
      intro value after padded evaluated
      exact acts_pure padded.growsTo (.ret opcode_eq evaluated)
  | loadAddress => exact plain (by rw [opcode_eq]; rfl) (acts_loadAddress context _ _)
  | listSlotAddress =>
      exact plain (by rw [opcode_eq]; rfl) (acts_listSlotAddress context _ _ _)
  | indexOf => exact plain (by rw [opcode_eq]; rfl) (acts_indexOf context _ _ _)
  | join => exact plain (by rw [opcode_eq]; rfl) (acts_join context _ _)
  | count => exact plain (by rw [opcode_eq]; rfl) (acts_count context _ _)
  | truncate | fraction => exact plain (by rw [opcode_eq]; rfl) (acts_convert context _ _ _)
  | add | subtract | multiply =>
      exact plain (by rw [opcode_eq]; rfl)
        (acts_update context _ (fun _ _ _ => Value.isPlain_of_exactlyOrRounded) _)
  | divide =>
      exact plain (by rw [opcode_eq]; rfl)
        (acts_update context _ (fun _ _ _ => Value.isPlain_of_rounded) _)
  | not => exact plain (by rw [opcode_eq]; rfl) (acts_negate context _)
  | and | or | xor => exact plain (by rw [opcode_eq]; rfl) (acts_updateBits context _ _ _)
  | greaterThan | lessThan => exact plain (by rw [opcode_eq]; rfl) (acts_compare context _ _ _ _)
  | equal =>
      have stored := (inspects_operandsEqual context (instruction.operand 1)
        (instruction.operand 2)).acts_store_plain (instruction.operand 0) growth Value.ofBool
          Value.isPlain_ofBool
      simpa only [bind_assoc] using plain (by rw [opcode_eq]; rfl) stored
  | keysAddress =>
      have stored := (Operand.inspects_loadObject context
        (instruction.operand 1)).acts_store_plain (instruction.operand 0) growth
          (fun cells => .number cells.keys.toNumber) fun _ => trivial
      simpa only [bind_assoc] using plain (by rw [opcode_eq]; rfl) stored
  | valuesAddress =>
      have stored := (Operand.inspects_loadObject context
        (instruction.operand 1)).acts_store_plain (instruction.operand 0) growth
          (fun cells => .number cells.values.toNumber) fun _ => trivial
      simpa only [bind_assoc] using plain (by rw [opcode_eq]; rfl) stored

end Instruction

end ScriptMachine
