import ScriptMachine.Proofs.Link.Additions
import ScriptMachine.Proofs.Machine.Executions
import ScriptMachine.Proofs.Registry.Closure

/-!
# Permanence of linkage

What a name stands for does not change while an engine goes on without forgetting.  Every step and
every execution, whether or not it fails, only adds to the registry and to the libraries; so two
calls by one name that find it, in whatever programs and executions, call one function.

An `Engine.Moment` is a state of an engine between two actions of its host or between two steps of
an execution, and an `Engine.Event` is what leads from one to the next.  Files change at any time,
also during an execution.
-/

namespace ScriptMachine

/-! ## Steps -/

namespace Machine

variable {host : Host} {machine next : Machine} {outcome : Outcome}

theorem Performs.addedTo {flow : Flow} {context : Context}
    (performs : machine.Performs host flow context) : machine.shared.AddedTo context.shared :=
  .of_eq performs.registry_eq performs.libraries_eq

theorem Resumes.addedTo {value : Value} (resumes : machine.Resumes value next) :
    machine.shared.AddedTo next.shared :=
  .of_eq resumes.registry_eq resumes.libraries_eq

theorem Discards.addedTo (discards : machine.Discards outcome) :
    machine.shared.AddedTo outcome.shared := by
  cases discards with
  | fault growth ofOperand => exact .of_eq growth.registry_eq growth.libraries_eq

theorem addedTo_of_passes (passes : machine.Passes host next) :
    machine.shared.AddedTo next.shared := by
  cases passes with
  | onward performs | jump performs | enterLabel performs => exact performs.addedTo
  | enterLibrary performs links entry =>
      exact performs.addedTo.trans (Program.links_of_link links).addedTo
  | invoke invokes invoked resumes =>
      have performs := performs_of_next invokes
      apply SharedState.AddedTo.trans _ resumes.addedTo
      exact .of_eq performs.registry_eq performs.libraries_eq
  | leaveLabel performs returns_eq resumes | leaveLibrary performs returns_eq callers_eq resumes =>
      exact performs.addedTo.trans resumes.addedTo

/-- A step that ends the execution, with a value or by a fault, only adds as well. -/
theorem addedTo_of_closes (closes : machine.Closes host outcome) :
    machine.shared.AddedTo outcome.shared := by
  cases closes with
  | refuse current growth => exact .of_eq growth.registry_eq growth.libraries_eq
  | notLinked performs links | notEntered performs links =>
      exact performs.addedTo.trans (Program.links_of_link links).addedTo
  | invoke invokes =>
      have performs := performs_of_next invokes
      exact .of_eq performs.registry_eq performs.libraries_eq
  | discardInvoked invokes invoked discards =>
      have performs := performs_of_next invokes
      apply SharedState.AddedTo.trans _ discards.addedTo
      exact .of_eq performs.registry_eq performs.libraries_eq
  | discardFromLabel performs returns_eq discards
  | discardFromLibrary performs returns_eq callers_eq discards =>
      exact performs.addedTo.trans discards.addedTo
  | finish performs => exact performs.addedTo

end Machine

/-! ## Executions -/

/-- What remains of a shared state when an engine goes on, and may have forgotten at the
beginning. -/
structure SharedState.ContinuedTo (forgets : Bool) (before after : SharedState) : Prop where
  added : forgets = false → before.AddedTo after
  distinct : before.libraries.Distinct → after.libraries.Distinct

namespace SharedState.ContinuedTo

variable {forgets : Bool} {before middle after : SharedState}

theorem of_addedTo (added : before.AddedTo after) : before.ContinuedTo forgets after :=
  ⟨fun _ => added, added.distinct⟩

theorem trans (first : before.ContinuedTo forgets middle)
    (second : middle.ContinuedTo forgets after) : before.ContinuedTo forgets after :=
  ⟨fun keeps => (first.added keeps).trans (second.added keeps), second.distinct ∘ first.distinct⟩

end SharedState.ContinuedTo

namespace Machine

theorem addedTo_of_run {host : Host} {initial machine : Machine} {steps : Nat}
    (runs : initial.run host steps = .running machine) :
    initial.shared.AddedTo machine.shared := by
  apply holds_of_run _ (.refl initial.shared) runs
  intro before after added stepped
  exact added.trans (addedTo_of_passes (passes_of_step stepped))

end Machine

namespace Engine

variable {engine : Engine} {entry : Entry} {arguments : Option (List Value)} {fresh : Bool}

theorem continuedTo_of_link {result : Except ExecutionError Unit} {linked : Context}
    (links : engine.program.link engine.host arguments fresh engine.shared = (result, linked)) :
    engine.shared.ContinuedTo fresh linked.shared := by
  have added := (Program.links_of_link links).addedTo
  cases fresh with
  | false => exact .of_addedTo added
  | true => exact ⟨by simp, fun _ => added.distinct List.Pairwise.nil⟩

theorem continuedTo_of_start_running {initial : Machine}
    (starts : engine.start entry arguments fresh = .running initial) :
    engine.shared.ContinuedTo fresh initial.shared := by
  obtain ⟨linked, offset, links, -, rfl⟩ := exists_linked_of_start starts
  exact continuedTo_of_link links

theorem continuedTo_of_start_finished {outcome : Outcome}
    (starts : engine.start entry arguments fresh = .finished outcome) :
    engine.shared.ContinuedTo fresh outcome.shared := by
  unfold start at starts
  split at starts
  · rename_i links
    cases starts
    exact continuedTo_of_link links
  · rename_i links
    split at starts <;> cases starts
    exact continuedTo_of_link links

/-- An execution adds to what linking leaves, whether or not it ends by an error.  One that does not
end leaves the engine as it was. -/
theorem exists_linked_of_execute (engine : Engine) (steps : Nat) (entry : Entry)
    (arguments : Option (List Value)) (fresh : Bool) :
    (engine.execute steps entry arguments fresh).2.shared = engine.shared ∨
      ∃ result linked,
        engine.program.link engine.host arguments fresh engine.shared = (result, linked) ∧
          linked.shared.AddedTo (engine.execute steps entry arguments fresh).2.shared := by
  simp only [execute, executeObserved]
  cases starts : engine.start entry arguments fresh with
  | finished outcome =>
      obtain ⟨result, linked, error, links, rfl⟩ := linked_of_start starts
      exact .inr ⟨result, linked, links, .refl linked.shared⟩
  | running initial =>
      obtain ⟨linked, offset, links, -, rfl⟩ := exists_linked_of_start starts
      simp only [Machine.snd_runObserved]
      cases runs : Machine.run engine.host steps _ with
      | running machine => exact .inl rfl
      | finished outcome =>
          obtain ⟨taken, last, reached, ended⟩ := Machine.step_of_run_finished runs
          have run := Machine.addedTo_of_run reached
          have closes := Machine.addedTo_of_closes (Machine.closes_of_step ended)
          exact .inr ⟨_, linked, links, run.trans closes⟩

/-- An execution goes on from what the engine has, whether or not it ends by an error. -/
theorem continuedTo_execute (engine : Engine) (steps : Nat) (entry : Entry)
    (arguments : Option (List Value)) (fresh : Bool) :
    engine.shared.ContinuedTo fresh (engine.execute steps entry arguments fresh).2.shared := by
  rcases engine.exists_linked_of_execute steps entry arguments fresh with
    same | ⟨result, linked, links, added⟩
  · rw [same]
    exact .of_addedTo (.refl engine.shared)
  · exact (continuedTo_of_link links).trans (.of_addedTo added)

/-! ## Moments -/

/-- A moment in the life of an engine: between two actions of its host, or during an execution,
with the engine as it was when the execution began. -/
inductive Moment where
  | idle (engine : Engine)
  | executing (engine : Engine) (machine : Machine)

/-- What can happen to an engine. -/
inductive Event where
  /-- The host acts on an idle engine. -/
  | action (action : Action)
  /-- An execution begins, or is refused at once. -/
  | begins (entry : Entry) (arguments : Option (List Value)) (fresh : Bool)
  /-- An execution makes a step, which may be its last. -/
  | step
  /-- The files change, also during an execution. -/
  | files (files : Files)

/-- Whether libraries and registered names are forgotten. -/
def Event.forgets : Event → Bool
  | .action (.execute _ _ _ fresh) => fresh
  | .begins _ _ fresh => fresh
  | _ => false

namespace Moment

def host : Moment → Host
  | .idle engine | .executing engine _ => engine.host

def shared : Moment → SharedState
  | .idle engine => engine.shared
  | .executing _ machine => machine.shared

/-- The moment when the execution goes on or has ended. -/
def ofStatus (engine : Engine) : Status → Moment
  | .running machine => .executing engine machine
  | .finished outcome => .idle (engine.settle outcome)

/-- The moment after an event; what cannot happen changes nothing. -/
def after : Moment → Event → Moment
  | .idle engine, .action action => .idle (engine.act action)
  | .idle engine, .begins entry arguments fresh =>
      ofStatus engine (engine.start entry arguments fresh)
  | .executing engine machine, .step => ofStatus engine (machine.step engine.host)
  | .idle engine, .files files => .idle { engine with host.files := files }
  | .executing engine machine, .files files =>
      .executing { engine with host.files := files } machine
  | moment, _ => moment

/-- The moment after events. -/
def afterAll (moment : Moment) (events : List Event) : Moment := events.foldl after moment

/-! ### What events leave -/

theorem continuedTo_ofStatus {forgets : Bool} {before : SharedState} {status : Status}
    (running : ∀ machine, status = .running machine → before.ContinuedTo forgets machine.shared)
    (finished : ∀ outcome, status = .finished outcome →
      before.ContinuedTo forgets outcome.shared) :
    before.ContinuedTo forgets (ofStatus engine status).shared := by
  cases status with
  | running machine => exact running machine rfl
  | finished outcome => exact finished outcome rfl

theorem continuedTo_act (engine : Engine) (action : Action) :
    engine.shared.ContinuedTo (Event.action action).forgets (engine.act action).shared := by
  have same : engine.shared.ContinuedTo false engine.shared := .of_addedTo (.refl engine.shared)
  cases action with
  | execute steps entry arguments fresh =>
      exact continuedTo_execute engine steps entry arguments fresh
  | lookupVariable name =>
      simp only [act, lookupVariable]
      split
      · exact same
      · exact .of_addedTo (.of_eq rfl rfl)
  | setVariable name value =>
      simp only [act, setVariable]
      split
      · exact same
      · exact .of_addedTo (.of_eq rfl rfl)
  | _ => exact same

theorem continuedTo_after (moment : Moment) (event : Event) :
    moment.shared.ContinuedTo event.forgets (moment.after event).shared := by
  have same {forgets : Bool} : moment.shared.ContinuedTo forgets moment.shared :=
    .of_addedTo (.refl moment.shared)
  cases moment with
  | idle engine =>
      cases event with
      | action action => exact continuedTo_act engine action
      | begins entry arguments fresh =>
          exact continuedTo_ofStatus (fun _ => continuedTo_of_start_running)
            (fun _ => continuedTo_of_start_finished)
      | step | files files => exact same
  | executing engine machine =>
      cases event with
      | step =>
          apply continuedTo_ofStatus
          · intro next stepped
            exact .of_addedTo (Machine.addedTo_of_passes (Machine.passes_of_step stepped))
          · intro outcome stepped
            exact .of_addedTo (Machine.addedTo_of_closes (Machine.closes_of_step stepped))
      | action | begins | files => exact same

theorem host_ofStatus (engine : Engine) (status : Status) :
    (ofStatus engine status).host = engine.host := by
  cases status <;> rfl

theorem keepsNatives_act (engine : Engine) (action : Action) :
    engine.host.KeepsNatives (engine.act action).host := by
  have same {host : Host} (host_eq : host = engine.host) : engine.host.KeepsNatives host :=
    .of_natives_eq (congrArg Host.natives host_eq)
  cases action with
  | registerFunction name function => exact engine.host.keepsNatives_addNative function
  | registerModule name functions => exact engine.host.keepsNatives_registerModule name functions
  | setSearchPaths | setFiles | setMaxDepth => exact .of_natives_eq rfl
  | execute steps entry arguments fresh =>
      exact same (engine.execute_keeps steps entry arguments fresh).2
  | lookupVariable name => exact same (engine.lookupVariable_keeps name).2
  | setVariable name value => exact same (engine.setVariable_keeps name value).2

theorem keepsNatives_after (moment : Moment) (event : Event) :
    moment.host.KeepsNatives (moment.after event).host := by
  have same : moment.host.KeepsNatives moment.host := .of_natives_eq rfl
  cases moment with
  | idle engine =>
      cases event with
      | action action => exact keepsNatives_act engine action
      | begins entry arguments fresh =>
          apply Host.KeepsNatives.of_natives_eq
          rw [after, host_ofStatus]
          rfl
      | step => exact same
      | files => exact .of_natives_eq rfl
  | executing engine machine =>
      cases event with
      | step =>
          apply Host.KeepsNatives.of_natives_eq
          rw [after, host_ofStatus]
          rfl
      | files => exact .of_natives_eq rfl
      | action | begins => exact same

theorem afterAll_cons (moment : Moment) (event : Event) (events : List Event) :
    moment.afterAll (event :: events) = (moment.after event).afterAll events := rfl

theorem distinct_afterAll {moment : Moment} (distinct : moment.shared.libraries.Distinct)
    (events : List Event) : (moment.afterAll events).shared.libraries.Distinct := by
  induction events generalizing moment with
  | nil => exact distinct
  | cons event rest ih => exact ih ((moment.continuedTo_after event).distinct distinct)

theorem addedTo_afterAll (moment : Moment) {events : List Event}
    (keeps : ∀ event ∈ events, event.forgets = false) :
    moment.shared.AddedTo (moment.afterAll events).shared ∧
      moment.host.KeepsNatives (moment.afterAll events).host := by
  induction events generalizing moment with
  | nil => exact ⟨.refl moment.shared, .of_natives_eq rfl⟩
  | cons event rest ih =>
      obtain ⟨first, others⟩ := List.forall_mem_cons.mp keeps
      have once := (moment.continuedTo_after event).added first
      have natives := moment.keepsNatives_after event
      obtain ⟨added, kept⟩ := ih (moment.after event) others
      rw [afterAll_cons]
      constructor
      · exact once.trans added
      · intro id function found
        exact kept id function (natives id function found)

end Moment

end Engine

/-! ## Calls by name -/

/-- What a call invokes: a function of the host, or the one at a label of a program. -/
inductive Callee where
  | native (id : NativeId) (function : NativeFunction)
  | library (program : Program) (label : UInt64)

/-- What execution goes on with, if it goes on with a function. -/
def Flow.callee? : Flow → Option Callee
  | .callNative _ id function _ => some (.native id function)
  | .callLibrary program label => some (.library program label)
  | _ => none

/-- What a registered name stands for. -/
def Linked.callee? (host : Host) (libraries : Libraries) : Linked → Option Callee
  | .native id => (host.native? id).map (.native id)
  | .library reference =>
      (libraries.get? reference.library).map (.library ·.program reference.label)

/-- A name goes on to stand for what it stands for. -/
theorem Linked.callee?_of_addedTo {before after : Host} {shared later : SharedState}
    {linked : Linked} {callee : Callee} (added : shared.AddedTo later)
    (keeps : before.KeepsNatives after)
    (stands : linked.callee? before shared.libraries = some callee) :
    linked.callee? after later.libraries = some callee := by
  cases linked with
  | native id =>
      obtain ⟨function, found, rfl⟩ := Option.map_eq_some_iff.mp stands
      exact Option.map_eq_some_iff.mpr ⟨function, keeps id function found, rfl⟩
  | library reference =>
      obtain ⟨library, found, rfl⟩ := Option.map_eq_some_iff.mp stands
      exact Option.map_eq_some_iff.mpr
        ⟨library, Libraries.get?_of_prefix added.libraries found, rfl⟩

/-- A call by a name that finds it invokes what the name is registered for. -/
theorem Instruction.Calls.callee?_eq {instruction : Instruction} {host : Host} {depth : Nat}
    {context : Context} {flow : Flow} {name : String}
    (calls : instruction.Calls host depth context flow)
    (evaluated : (instruction.operand 1).evaluate context = .ok (.text name)) :
    ∃ linked callee, context.shared.registry.get? name = some linked ∧
      linked.callee? host context.shared.libraries = some callee ∧ flow.callee? = some callee := by
  have registered {linked : Linked} (named : (instruction.operand 1).Names context linked) :
      context.shared.registry.get? name = some linked := by
    cases named with
    | text evaluated' found =>
        cases evaluated.symm.trans evaluated'
        exact found
    | native evaluated' | function evaluated' => cases evaluated.symm.trans evaluated'
  cases calls with
  | label operand_eq =>
      rw [operand_eq] at evaluated
      cases evaluated
  | library named loaded =>
      refine ⟨_, _, registered named, ?_, rfl⟩
      rw [Linked.callee?, loaded, Option.map_some]
  | native named found =>
      refine ⟨_, _, registered named, ?_, rfl⟩
      rw [Linked.callee?, found, Option.map_some]

namespace Engine

/-- At a moment an instruction calls what has a name, and execution goes on so. -/
inductive Moment.Calls (name : String) : Moment → Flow → Prop where
  | performed {engine : Engine} {machine : Machine} {instruction : Instruction} {flow : Flow}
      {context : Context} (current : machine.current.instruction? = some instruction)
      (opcode_eq : instruction.opcode = .call)
      (evaluated : (instruction.operand 1).evaluate machine.context = .ok (.text name))
      (performed : machine.next engine.host = (.ok flow, context)) :
      Calls name (.executing engine machine) flow

theorem Moment.Calls.callee?_eq {moment : Moment} {name : String} {flow : Flow}
    (calls : moment.Calls name flow) :
    ∃ linked callee, moment.shared.registry.get? name = some linked ∧
      linked.callee? moment.host moment.shared.libraries = some callee ∧
        flow.callee? = some callee := by
  cases calls with
  | performed current opcode_eq evaluated performed =>
      have not_ret : ∀ value, flow ≠ .ret value := by
        rintro value rfl
        have ends := (Machine.performs_of_next performed).ends _ current
        rw [opcode_eq] at ends
        cases ends
      obtain ⟨other, effect, found, does⟩ :=
        (Machine.performs_of_next performed).exists_does not_ret
      obtain rfl := Option.some.inj (current.symm.trans found)
      cases does with
      | call _ calls => exact calls.callee?_eq evaluated
      | nothing other_eq => simp [opcode_eq] at other_eq
      | store stores => simp [opcode_eq, Opcode.stores] at stores
      | jump jumps => cases jumps <;> simp_all
      | newPointer other_eq | pointer other_eq | slot other_eq | pass other_eq | ret other_eq =>
          simp [opcode_eq] at other_eq

/-- From one moment to any later one, with anything in between but an execution that forgets: what
is registered stays registered, libraries are only added at the end and never from a path that is
loaded, and one that fails to load adds nothing.  Two calls by one name at these moments, if both
find it, invoke the same function. -/
theorem stable_linkage (program : Program) (reader : ProgramReader) (history later : List Event)
    (keeps : ∀ event ∈ later, event.forgets = false) :
    let first := (Moment.idle (ofProgram program reader)).afterAll history
    let second := first.afterAll later
    first.shared.AddedTo second.shared ∧ second.shared.libraries.Distinct ∧
    (∀ index library, first.shared.libraries.get? index = some library →
      second.shared.libraries.get? index = some library) ∧
    (∀ files path cause libraries,
      (Libraries.load reader files path).run second.shared.libraries = (.error cause, libraries) →
        libraries = second.shared.libraries) ∧
    ∀ name flow other, first.Calls name flow → second.Calls name other →
      ∃ callee, flow.callee? = some callee ∧ other.callee? = some callee := by
  intro first second
  obtain ⟨added, natives⟩ := first.addedTo_afterAll keeps
  have initially : (Moment.idle (ofProgram program reader)).shared.libraries.Distinct :=
    List.Pairwise.nil
  have distinct := Moment.distinct_afterAll initially history
  refine ⟨added, Moment.distinct_afterAll distinct later, ?_, ?_, ?_⟩
  · intro index library found
    exact Libraries.get?_of_prefix added.libraries found
  · intro files path cause libraries failed
    exact (Libraries.load_adds reader files path second.shared.libraries).of_run_error failed
  · intro name flow other calls otherCalls
    obtain ⟨linked, callee, registered, stands, flow_eq⟩ := calls.callee?_eq
    obtain ⟨linked', callee', registered', stands', other_eq⟩ := otherCalls.callee?_eq
    obtain rfl := Option.some.inj ((added.registry name linked registered).symm.trans registered')
    have same := (Linked.callee?_of_addedTo added natives stands).symm.trans stands'
    refine ⟨callee, flow_eq, ?_⟩
    rw [other_eq, same]

/-- A function of a module. -/
def answersNone : NativeFunction := fun _ memory => (.ok .none, memory)

/-- The function that replaces it. -/
def answersZero : NativeFunction := fun _ memory => (.ok (.number .zero), memory)

/-- An execution up to the call of the module's function. -/
def callHistory : List Event :=
  [.action (.registerModule "module" [("function", answersNone)]), .begins mainEntry none true,
    .step]

/-- The end of that execution, another module, and another execution up to the call. -/
def replacedCallHistory : List Event :=
  [.step, .step, .action (.registerModule "module" [("function", answersZero)]),
    .begins mainEntry none false, .step]

/-- The machine at the call, with the cell of the program's variable. -/
def callMachine (allocated : Address × Memory) : Machine where
  shared := ⟨allocated.2, .zero, ⟨[("function", .native ⟨0⟩)]⟩, .empty⟩
  current :=
    { program := moduleProgram
      scope :=
        ⟨⟨#[some ⟨"result", .exported, some allocated.1⟩]⟩, ⟨#[some ⟨"main", .exported, some 0⟩]⟩⟩
      depth := 0
      offset := 1
      returns := [] }
  callers := []

/-- The engine before the first call. -/
def callEngine : Engine :=
  (ofProgram moduleProgram).act (.registerModule "module" [("function", answersNone)])

/-- The engine before the second call. -/
def replacedCallEngine : Engine :=
  let machine := callMachine (Memory.empty.allocate .none)
  (callEngine.settle ⟨.ok .none, machine.shared, machine.rootScope⟩).act
    (.registerModule "module" [("function", answersZero)])

theorem stable_linkage_replacedModule :
    let first := (Moment.idle (ofProgram moduleProgram)).afterAll callHistory
    let second := first.afterAll replacedCallHistory
    (∀ event ∈ replacedCallHistory, event.forgets = false) ∧
    second.host.module? "module" = some [("function", ⟨1⟩)] ∧
    ∃ flow other, first.Calls "function" flow ∧ second.Calls "function" other ∧
      flow.callee? = some (.native ⟨0⟩ answersNone) ∧
      other.callee? = some (.native ⟨0⟩ answersNone) := by
  intro first second
  let allocated := Memory.empty.allocate .none
  have keeps : ∀ event ∈ replacedCallHistory, event.forgets = false := by decide
  have first_eq : first = .executing callEngine (callMachine allocated) := rfl
  have second_eq : second =
      .executing replacedCallEngine (callMachine (allocated.2.allocate .none)) := by
    change first.afterAll replacedCallHistory = _
    rw [first_eq]
    rfl
  have calls : first.Calls "function" (.callNative "function" ⟨0⟩ answersNone []) := by
    rw [first_eq]
    exact .performed rfl rfl rfl rfl
  have otherCalls : second.Calls "function" (.callNative "function" ⟨0⟩ answersNone []) := by
    rw [second_eq]
    exact .performed rfl rfl rfl rfl
  have replaced : second.host.module? "module" = some [("function", ⟨1⟩)] := by
    rw [second_eq]
    rfl
  obtain ⟨-, -, -, -, alike⟩ :=
    stable_linkage moduleProgram .refusing callHistory replacedCallHistory keeps
  obtain ⟨callee, flow_eq, other_eq⟩ := alike _ _ _ calls otherCalls
  exact ⟨keeps, replaced, _, _, calls, otherCalls, rfl, other_eq.trans flow_eq.symm⟩

end Engine

end ScriptMachine
