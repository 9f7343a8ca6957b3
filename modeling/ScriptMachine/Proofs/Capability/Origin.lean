import ScriptMachine.Proofs.Link.Declarations
import ScriptMachine.Proofs.Link.Stages
import ScriptMachine.Proofs.Machine.Executions

/-!
# Origins of capabilities

Library functions, host functions and foreign values are the capabilities that a host gives to
programs.  A program has no literals for them and no instruction makes them from numbers or texts,
so that whatever capability is found after an execution has an origin: it was in memory before,
it was an argument, or a function of the host returned it or wrote it to memory.

A value is followed by its absence: a step at which no function of the host gives the value
keeps it out of memory, and so does linking unless it is among the arguments.
-/

namespace ScriptMachine

/-! ## Capabilities -/

/-- The values that programs cannot make. -/
def Value.IsCapability : Value → Prop
  | .function _ | .nativeFunction _ | .foreign _ => True
  | _ => False

namespace Value

variable {value given : Value} {memory : Memory}

theorem IsPlain.ne_capability (isPlain : given.IsPlain) (isCapability : value.IsCapability) :
    given ≠ value := by
  rintro rfl
  cases given <;> contradiction

theorem NewTo.ne_capability (new : given.NewTo memory) (isCapability : value.IsCapability) :
    given ≠ value := by
  rintro rfl
  cases new <;> contradiction

end Value

namespace Memory

/-- No cell of the memory holds the value. -/
def Lacks (memory : Memory) (value : Value) : Prop := ∀ address, memory.lookup address ≠ value

namespace Lacks

variable {memory after : Memory} {value given : Value}

theorem grow (lacks : memory.Lacks value) (isCapability : value.IsCapability)
    (growth : memory.GrowsTo after) : after.Lacks value := by
  intro address
  rcases Nat.lt_or_ge address.index memory.size with inside | outside
  · rw [growth.lookup_eq address inside]
    exact lacks address
  · exact (growth.lookup_new address outside).ne_capability isCapability

theorem write (lacks : memory.Lacks value) (address : Address) (given_ne : given ≠ value) :
    (memory.write address given).Lacks value := by
  intro other
  rw [lookup_write]
  split
  · exact given_ne
  · exact lacks other

theorem allocate (lacks : memory.Lacks value) (given_ne : given ≠ value) :
    (memory.allocate given).2.Lacks value := by
  intro other
  rw [lookup_allocate]
  split
  · exact given_ne
  · exact lacks other

theorem allocateAll {values : List Value} (lacks : memory.Lacks value) (not_mem : value ∉ values) :
    (memory.allocateAll values).2.Lacks value := by
  induction values generalizing memory with
  | nil => exact lacks
  | cons given rest ih =>
      have given_ne := (List.ne_of_not_mem_cons not_mem).symm
      exact ih (lacks.allocate given_ne) (List.not_mem_of_not_mem_cons not_mem)

/-- A value is passed on to nobody who does not already have it. -/
theorem ne_of_lookupSlot (lacks : memory.Lacks value) (isCapability : value.IsCapability)
    (slot : Option Address) : memory.lookupSlot slot ≠ value := by
  cases slot with
  | none =>
      have plain : Value.none.IsPlain := trivial
      exact plain.ne_capability isCapability
  | some address => exact lacks address

end Lacks

end Memory

/-! ## Instructions -/

section Instructions

variable {context : Context} {value given : Value}

/-- An operand does not evaluate to a capability that is not in memory. -/
theorem Operand.evaluate_ne {operand : Operand} (lacks : context.shared.memory.Lacks value)
    (isCapability : value.IsCapability) (evaluated : operand.evaluate context = .ok given) :
    given ≠ value := by
  cases operand with
  | none | register =>
      obtain rfl := Except.ok.inj evaluated
      exact Value.IsPlain.ne_capability trivial isCapability
  | literal literal =>
      obtain rfl := Except.ok.inj evaluated
      exact (Value.isPlain_ofLiteral literal).ne_capability isCapability
  | label => cases evaluated
  | rawAddress raw =>
      obtain rfl := Except.ok.inj evaluated
      exact lacks.ne_of_lookupSlot isCapability _
  | «variable» index =>
      simp only [evaluate] at evaluated
      split at evaluated
      · obtain rfl := Except.ok.inj evaluated
        exact lacks.ne_of_lookupSlot isCapability _
      · cases evaluated

theorem Effect.lacks_apply {scope : Scope} {operand : Operand} {effect : Effect}
    (receives : operand.Receives scope given effect) (lacks : context.shared.memory.Lacks value)
    (given_ne : given ≠ value) : (effect.apply context).shared.memory.Lacks value := by
  cases receives with
  | register | null => exact lacks
  | cell => exact lacks.write _ given_ne

namespace Instruction

variable {instruction : Instruction} {host : Host} {depth : Nat} {flow : Flow} {effect : Effect}

theorem Gives.ne_capability (gives : instruction.Gives context given)
    (lacks : context.shared.memory.Lacks value) (isCapability : value.IsCapability) :
    given ≠ value := by
  cases gives with
  | plain isPlain => exact isPlain.ne_capability isCapability
  | new newTo => exact newTo.ne_capability isCapability
  | copy evaluated => exact Operand.evaluate_ne lacks isCapability evaluated

/-- No instruction makes a capability. -/
theorem Does.lacks_apply {middle : Context}
    (does : instruction.Does host depth context flow effect)
    (lacks : context.shared.memory.Lacks value) (isCapability : value.IsCapability)
    (lacksGrown : middle.shared.memory.Lacks value) :
    (effect.apply middle).shared.memory.Lacks value := by
  cases does with
  | store stores gives receives =>
      exact Effect.lacks_apply receives lacksGrown (gives.ne_capability lacks isCapability)
  | _ => exact lacksGrown

theorem Does.ne_of_ret (does : instruction.Does host depth context (.ret given) effect)
    (lacks : context.shared.memory.Lacks value) (isCapability : value.IsCapability) :
    given ≠ value := by
  cases does with
  | call opcode_eq calls => cases calls
  | ret opcode_eq evaluated => exact Operand.evaluate_ne lacks isCapability evaluated

end Instruction

end Instructions

/-! ## Linking -/

/-- However far linking comes, it puts no capability into memory but arguments. -/
theorem Program.Links.lacks {program : Program} {host : Host} {arguments : Option (List Value)}
    {start : SharedState} {result : Except ExecutionError Unit} {linked : Context} {value : Value}
    (links : program.Links host arguments start result linked)
    (lacks : start.memory.Lacks value) (isCapability : value.IsCapability)
    (not_passed : ∀ values, arguments = some values → value ∉ values) :
    linked.shared.memory.Lacks value := by
  have ends := SharedState.linkImports_ends host program start
  have lacks_declare {imported : SharedState} {declared : Context}
      {result : Except ExecutionError Unit}
      (imports : (SharedState.linkImports host program).run start = (.ok (), imported))
      (declares : program.declare imported = (result, declared)) :
      declared.shared.memory.Lacks value := by
    have memory_eq := (ends.of_run_ok imports).1.memory_eq
    have memory_declare := program.memory_declare imported
    rw [declares, memory_eq] at memory_declare
    rw [memory_declare]
    apply lacks.allocateAll
    intro member
    obtain ⟨declaration, declared, value_eq⟩ := List.mem_map.mp member
    have plain := program.isPlain_of_mem_declarations declared
    exact plain.ne_capability isCapability value_eq
  cases links with
  | notImported imports =>
      rw [(ends.of_run_error imports).memory_eq]
      exact lacks
  | notDeclared imports declares => exact lacks_declare imports declares
  | linked imports declares =>
      have lacksDeclared := lacks_declare imports declares
      cases arguments with
      | none => exact lacksDeclared
      | some values =>
          have lacksPassed := lacksDeclared.allocateAll (not_passed values rfl)
          -- The list of the arguments has slots of its own, and its handle is in the last cell.
          apply Memory.Lacks.allocate lacksPassed
          rintro rfl
          contradiction

/-! ## Steps -/

namespace Machine

/-- The next step invokes a function of the host that returns the value, or that writes it to
a cell which did not hold it. -/
inductive HostGives (host : Host) (machine : Machine) (value : Value) : Prop where
  | returned {name : String} {id : NativeId} {function : NativeFunction} {arguments : List Value}
      {context : Context} {memory : Memory}
      (invokes : machine.next host = (.ok (.callNative name id function arguments), context))
      (invoked : function arguments context.shared.memory = (.ok value, memory))
  | written {name : String} {id : NativeId} {function : NativeFunction} {arguments : List Value}
      {context : Context} {result : Except HostError Value} {memory : Memory} {address : Address}
      (invokes : machine.next host = (.ok (.callNative name id function arguments), context))
      (invoked : function arguments context.shared.memory = (result, memory))
      (changed : context.shared.memory.lookup address ≠ value)
      (holds : memory.lookup address = value)

variable {host : Host} {machine next : Machine} {outcome : Outcome} {value given : Value}
  {flow : Flow} {context : Context}

theorem Performs.lacks (performs : machine.Performs host flow context)
    (lacks : machine.shared.memory.Lacks value) (isCapability : value.IsCapability) :
    context.shared.memory.Lacks value := by
  cases performs with
  | instruction current growth does =>
      exact does.lacks_apply lacks isCapability (lacks.grow isCapability growth.memory)
  | fallOff current => exact lacks

theorem Performs.ne_of_ret (performs : machine.Performs host (.ret given) context)
    (lacks : machine.shared.memory.Lacks value) (isCapability : value.IsCapability) :
    given ≠ value := by
  -- Past its last instruction a program returns a number.
  cases performs with
  | instruction current growth does => exact does.ne_of_ret lacks isCapability
  | fallOff current => exact Value.IsPlain.ne_capability trivial isCapability

theorem Resumes.lacks (resumes : machine.Resumes given next)
    (lacks : machine.shared.memory.Lacks value) (isCapability : value.IsCapability)
    (given_ne : given ≠ value) : next.shared.memory.Lacks value := by
  cases resumes with
  | store growth receives =>
      exact Effect.lacks_apply receives (lacks.grow isCapability growth.memory) given_ne

theorem Discards.lacks (discards : machine.Discards outcome)
    (lacks : machine.shared.memory.Lacks value) (isCapability : value.IsCapability) :
    outcome.shared.memory.Lacks value := by
  cases discards with
  | fault growth => exact lacks.grow isCapability growth.memory

theorem Discards.result_ne (discards : machine.Discards outcome) (value : Value) :
    outcome.result ≠ .ok value := by
  cases discards with
  | fault => simp [aborted]

section Invocations

variable {name : String} {id : NativeId} {function : NativeFunction} {arguments : List Value}
  {memory : Memory}

/-- A function of the host that does not give the value leaves it out of memory. -/
theorem lacks_of_invoked {result : Except HostError Value}
    (not_given : ¬machine.HostGives host value)
    (invokes : machine.next host = (.ok (.callNative name id function arguments), context))
    (invoked : function arguments context.shared.memory = (result, memory))
    (lacks : machine.shared.memory.Lacks value) (isCapability : value.IsCapability) :
    memory.Lacks value := by
  intro address holds
  have changed := (performs_of_next invokes).lacks lacks isCapability address
  exact not_given (.written invokes invoked changed holds)

theorem ne_of_invoked (not_given : ¬machine.HostGives host value)
    (invokes : machine.next host = (.ok (.callNative name id function arguments), context))
    (invoked : function arguments context.shared.memory = (.ok given, memory)) :
    given ≠ value := by
  rintro rfl
  exact not_given (.returned invokes invoked)

end Invocations

/-- A step at which the host does not give a capability keeps it out of memory. -/
theorem lacks_of_passes (passes : machine.Passes host next)
    (lacks : machine.shared.memory.Lacks value) (isCapability : value.IsCapability)
    (not_given : ¬machine.HostGives host value) : next.shared.memory.Lacks value := by
  cases passes with
  | onward performs | jump performs | enterLabel performs =>
      exact performs.lacks lacks isCapability
  | enterLibrary performs links =>
      exact (Program.links_of_link links).lacks (performs.lacks lacks isCapability) isCapability
        (by simp)
  | invoke invokes invoked resumes =>
      have lacksInvoked := lacks_of_invoked not_given invokes invoked lacks isCapability
      exact resumes.lacks lacksInvoked isCapability (ne_of_invoked not_given invokes invoked)
  | leaveLabel performs returns_eq resumes | leaveLibrary performs returns_eq callers_eq resumes =>
      exact resumes.lacks (performs.lacks lacks isCapability) isCapability
        (performs.ne_of_ret lacks isCapability)

/-- The step that ends an execution does not make a capability either, nor return one. -/
theorem lacks_of_closes (closes : machine.Closes host outcome)
    (lacks : machine.shared.memory.Lacks value) (isCapability : value.IsCapability)
    (not_given : ¬machine.HostGives host value) :
    outcome.shared.memory.Lacks value ∧ outcome.result ≠ .ok value := by
  cases closes with
  | refuse current growth =>
      exact ⟨lacks.grow isCapability growth.memory, by simp [aborted]⟩
  | notLinked performs links | notEntered performs links =>
      have linked := (Program.links_of_link links).lacks (performs.lacks lacks isCapability)
        isCapability (by simp)
      exact ⟨linked, by simp [aborted]⟩
  | invoke invokes invoked =>
      exact ⟨lacks_of_invoked not_given invokes invoked lacks isCapability, by simp [aborted]⟩
  | discardInvoked invokes invoked discards =>
      have lacksInvoked := lacks_of_invoked not_given invokes invoked lacks isCapability
      exact ⟨discards.lacks lacksInvoked isCapability, discards.result_ne value⟩
  | discardFromLabel performs returns_eq discards
  | discardFromLibrary performs returns_eq callers_eq discards =>
      have lacksReturned := performs.lacks lacks isCapability
      exact ⟨discards.lacks lacksReturned isCapability, discards.result_ne value⟩
  | finish performs =>
      have given_ne := performs.ne_of_ret lacks isCapability
      exact ⟨performs.lacks lacks isCapability, fun returned => given_ne (Except.ok.inj returned)⟩

end Machine

/-! ## Executions -/

namespace Engine

/-- Where an execution can have a value from within a number of steps. -/
inductive Origin (engine : Engine) (entry : Entry) (arguments : Option (List Value)) (fresh : Bool)
    (steps : Nat) (value : Value) : Prop where
  | held {address : Address} (holds : engine.shared.memory.lookup address = value)
  | passed {values : List Value} (arguments_eq : arguments = some values) (member : value ∈ values)
  | given {initial machine : Machine} {taken : Nat}
      (starts : engine.start entry arguments fresh = .running initial) (taken_lt : taken < steps)
      (runs : initial.run engine.host taken = .running machine)
      (gives : machine.HostGives engine.host value)

variable {engine : Engine} {entry : Entry} {arguments : Option (List Value)} {fresh : Bool}
  {initial machine : Machine} {steps : Nat} {value : Value}

theorem Origin.mono {more : Nat} (origin : engine.Origin entry arguments fresh steps value)
    (steps_le : steps ≤ more) : engine.Origin entry arguments fresh more value := by
  cases origin with
  | held holds => exact .held holds
  | passed arguments_eq member => exact .passed arguments_eq member
  | given starts taken_lt runs gives =>
      exact .given starts (Nat.lt_of_lt_of_le taken_lt steps_le) runs gives

/-- However far linking comes, a value without origin is not in memory. -/
theorem lacks_of_link {result : Except ExecutionError Unit} {linked : Context}
    (links : engine.program.link engine.host arguments fresh engine.shared = (result, linked))
    (isCapability : value.IsCapability)
    (no_origin : ¬engine.Origin entry arguments fresh steps value) :
    linked.shared.memory.Lacks value := by
  apply (Program.links_of_link links).lacks _ isCapability
  · intro values arguments_eq member
    exact no_origin (.passed arguments_eq member)
  · intro address holds
    apply no_origin
    cases fresh <;> exact .held holds

/-- As long as an execution runs, a value without origin is not in memory. -/
theorem lacks_of_run (starts : engine.start entry arguments fresh = .running initial)
    (runs : initial.run engine.host steps = .running machine) (isCapability : value.IsCapability)
    (no_origin : ¬engine.Origin entry arguments fresh steps value) :
    machine.shared.memory.Lacks value := by
  induction steps generalizing machine with
  | zero =>
      obtain ⟨linked, offset, links, _, rfl⟩ := exists_linked_of_start starts
      cases runs
      exact lacks_of_link links isCapability no_origin
  | succ steps ih =>
      have no_earlier_origin : ¬engine.Origin entry arguments fresh steps value :=
        fun origin => no_origin (origin.mono (Nat.le_succ steps))
      obtain ⟨last, reached, stepped⟩ := Machine.exists_last_of_run runs
      apply Machine.lacks_of_passes (Machine.passes_of_step stepped) _ isCapability
      · exact fun gives => no_origin (.given starts (Nat.lt_succ_self steps) reached gives)
      · exact ih reached no_earlier_origin

/-- An execution with a result, which may be a fault: a capability that is in memory afterwards, or
is returned, was in memory before or among the arguments, or a function of the host gave it at one
of the steps. -/
theorem capability_origins {result : Except ExecutionError Value} {after : Engine}
    (isCapability : value.IsCapability)
    (executed : engine.execute steps entry arguments fresh = (some result, after))
    (found : (∃ address, after.shared.memory.lookup address = value) ∨ result = .ok value) :
    engine.Origin entry arguments fresh steps value := by
  apply Classical.byContradiction
  intro no_origin
  have absent : after.shared.memory.Lacks value ∧ result ≠ .ok value := by
    obtain ⟨outcome, rfl, rfl, refused | ⟨initial, taken, last, starts, taken_lt, reached, ended⟩⟩ :=
      settle_of_execute executed
    · obtain ⟨_, linked, error, links, rfl⟩ := linked_of_start refused
      exact ⟨lacks_of_link links isCapability no_origin, by simp⟩
    · have no_earlier_origin : ¬engine.Origin entry arguments fresh taken value :=
        fun origin => no_origin (origin.mono (Nat.le_of_lt taken_lt))
      have lacks := lacks_of_run starts reached isCapability no_earlier_origin
      apply Machine.lacks_of_closes (Machine.closes_of_step ended) lacks isCapability
      exact fun gives => no_origin (.given starts taken_lt reached gives)
  obtain ⟨lacks, result_ne⟩ := absent
  rcases found with ⟨address, holds⟩ | returned
  · exact lacks address holds
  · exact result_ne returned

/-- A program that asks the host for a value and returns it. -/
def mintingProgram : Program where
  imports := []
  constants := []
  vars := [⟨0, "token", .hidden⟩]
  functions := [⟨0, "main", .exported⟩]
  instructions := #[
    .make .label [.label 0],
    .make .call [.variable 0, .literal (.text "mint")],
    .make .ret [.variable 0]]

/-- The program with a host that gives out a token of its own. -/
def mintingEngine : Engine where
  program := mintingProgram
  host :=
    (Host.empty.registerFunction "mint" fun _ memory =>
      (.ok (.foreign (some ⟨0⟩)), memory)).2
  shared := .empty
  scope := .empty

theorem capability_origins_mintingEngine :
    (mintingEngine.execute 3 mainEntry none false).1 =
        some (.ok (.foreign (some ⟨0⟩))) ∧
      mintingEngine.Origin mainEntry none false 3 (.foreign (some ⟨0⟩)) :=
  ⟨rfl, capability_origins trivial rfl (.inr rfl)⟩

end Engine

end ScriptMachine
