import ScriptMachine.Engine
import ScriptMachine.Proofs.Isolation.Confinement

/-!
# Isolation of library calls

The memory at a call is the frontier of the call.  As long as the call goes on, all
activations above the caller are confined: their programs are without addresses and their
variables are bound above the frontier.  This survives every instruction, every link of a
nested call and every value that is given back from one library to another, so that the cells
and the lists of the caller are the same when the call ends.
-/

namespace ScriptMachine

/-- A program without addresses whose variables are bound above the frontier. -/
structure Activation.Confined (before : Memory) (activation : Activation) : Prop where
  scope : activation.scope.Confined before
  addressFree : activation.program.AddressFree

/-- Control of a confined program can move. -/
theorem Activation.Confined.move {before : Memory} {activation : Activation}
    (confined : activation.Confined before) {depth offset : Nat} {returns : List Nat} :
    Confined before ⟨activation.program, activation.scope, depth, offset, returns⟩ :=
  ⟨confined.scope, confined.addressFree⟩

namespace Machine

/-- The next instruction invokes a function of the host. -/
def InvokesNative (host : Host) (machine : Machine) : Prop :=
  ∃ name id function arguments context,
    machine.next host = (.ok (.callNative name id function arguments), context)

/-- The activations above a number of waiting ones are confined. -/
structure Isolated (before : Memory) (waiting : Nat) (machine : Machine) : Prop where
  memory : before.Isolates machine.shared.memory
  libraries : ∀ library ∈ machine.shared.libraries.loaded, library.program.AddressFree
  current : machine.current.Confined before
  callers : ∃ inner below, machine.callers = inner ++ below ∧ below.length = waiting ∧
    ∀ caller ∈ inner, caller.Confined before

variable {host : Host} {machine next : Machine} {before : Memory} {waiting : Nat}

theorem Isolated.context (isolated : machine.Isolated before waiting) :
    machine.context.Isolated before := ⟨isolated.memory, isolated.current.scope⟩

/-! ## Performances -/

namespace Performs

variable {flow : Flow} {context : Context}

theorem isolated (performs : machine.Performs host flow context)
    (isolated : machine.Isolated before waiting) : context.Isolated before := by
  cases performs with
  | instruction current growth does =>
      have addressFree := isolated.current.addressFree _ (Array.mem_of_getElem? current)
      have confined := does.confined isolated.context addressFree
      exact confined.isolated (isolated.context.grow growth)
  | fallOff current => exact isolated.context

/-- What a confined program gives back is no list that existed before. -/
theorem foreignTo {value : Value} (performs : machine.Performs host (.ret value) context)
    (isolated : machine.Isolated before waiting) : value.ForeignTo before := by
  cases performs with
  | instruction current growth does =>
      have addressFree := isolated.current.addressFree _ (Array.mem_of_getElem? current)
      exact does.foreignTo_of_ret isolated.context addressFree
  | fallOff current =>
      apply Value.IsPlain.foreignTo
      trivial

/-- The machine after work that stays in the current program. -/
theorem isolated_withContext (performs : machine.Performs host flow context)
    (isolated : machine.Isolated before waiting) :
    (machine.withContext context).Isolated before waiting where
  memory := (performs.isolated isolated).memory
  libraries := by
    have libraries_eq := performs.libraries_eq
    simp only [withContext]
    rw [libraries_eq]
    exact isolated.libraries
  current := ⟨(performs.isolated isolated).scope, isolated.current.addressFree⟩
  callers := isolated.callers

end Performs

/-! ## Resuming -/

theorem Resumes.isolated {value : Value} (resumes : machine.Resumes value next)
    (foreign : value.ForeignTo before) (isolated : machine.Isolated before waiting) :
    next.Isolated before waiting where
  memory := by
    cases resumes with
    | store growth receives =>
        have addressFree := machine.current.addressFree_instruction isolated.current.addressFree
        have confined :=
          receives.confined isolated.current.scope (addressFree.isAddress_operand 0) foreign
        exact (confined.isolated (isolated.context.grow growth)).memory
  libraries := by
    rw [resumes.libraries_eq]
    exact isolated.libraries
  current := by
    rw [resumes.current_eq]
    exact isolated.current.move
  callers := by
    rw [resumes.callers_eq]
    exact isolated.callers

theorem Discards.isolates {outcome : Outcome} (discards : machine.Discards outcome)
    (isolates : before.Isolates machine.shared.memory) : before.Isolates outcome.shared.memory := by
  cases discards with
  | fault growth ofOperand => exact isolates.grow growth.memory

/-! ## Steps -/

/-- A machine that links and enters a library function. -/
theorem isolated_of_enterLibrary {program : Program} {label : UInt64} {context linked : Context}
    (performs : machine.Performs host (.callLibrary program label) context)
    (links : program.link host none false context.shared = (.ok (), linked))
    (isolates : before.Isolates machine.shared.memory)
    (loaded : ∀ library ∈ machine.shared.libraries.loaded, library.program.AddressFree)
    (loadable : ∀ program, host.Loadable program → program.AddressFree) :
    linked.Isolated before ∧ program.AddressFree ∧
      ∀ library ∈ linked.shared.libraries.loaded, library.program.AddressFree := by
  have growth := performs.growsTo (by simp)
  obtain ⟨instruction, _, current, does⟩ := performs.exists_does (by simp)
  obtain ⟨_, reference, library, _, found, rfl, _⟩ := does.call_of_callLibrary
  have stages := Program.links_of_link links
  have loadedBefore : ∀ library ∈ context.shared.libraries.loaded,
      library.program.AddressFree := by
    rw [growth.libraries_eq]
    exact loaded
  have libraries := Program.libraries_of_link links (fun _ => loadedBefore) loadable
  exact ⟨stages.isolated (isolates.grow growth.memory),
    loaded library (List.mem_of_getElem? found), libraries⟩

/-- Isolation lasts as long as so many activations wait and no function of the host is
invoked. -/
theorem isolated_of_passes (isolated : machine.Isolated before waiting)
    (loadable : ∀ program, host.Loadable program → program.AddressFree)
    (quiet : ¬machine.InvokesNative host) (passes : machine.Passes host next)
    (above : waiting ≤ next.callers.length) : next.Isolated before waiting := by
  cases passes with
  | onward performs | jump performs | enterLabel performs =>
      have within := performs.isolated_withContext isolated
      exact ⟨within.memory, within.libraries, within.current.move, within.callers⟩
  | @enterLibrary _ _ context _ _ performs links entry =>
      have within := performs.isolated_withContext isolated
      obtain ⟨linked, addressFree, libraries⟩ := isolated_of_enterLibrary performs links
        isolated.memory isolated.libraries loadable
      obtain ⟨inner, below, callers_eq, length_eq, confined⟩ := isolated.callers
      have callers : ∀ caller ∈ (machine.withContext context).current :: inner,
          caller.Confined before := List.forall_mem_cons.mpr ⟨within.current, confined⟩
      exact ⟨linked.memory, libraries, ⟨linked.scope, addressFree⟩, _, below,
        congrArg ((machine.withContext context).current :: ·) callers_eq, length_eq, callers⟩
  | invoke invokes => exact absurd ⟨_, _, _, _, _, invokes⟩ quiet
  | leaveLabel performs returns_eq resumes =>
      have within := performs.isolated_withContext isolated
      apply resumes.isolated (performs.foreignTo isolated)
      exact ⟨within.memory, within.libraries, within.current.move, within.callers⟩
  | leaveLibrary performs returns_eq callers_eq resumes =>
      have within := performs.isolated_withContext isolated
      obtain ⟨inner, below, split_eq, length_eq, confined⟩ := isolated.callers
      rw [resumes.callers_eq] at above
      apply resumes.isolated (performs.foreignTo isolated)
      rw [callers_eq] at split_eq
      cases inner with
      | nil =>
          have lengths := congrArg List.length split_eq
          simp only [List.length_cons, List.nil_append] at lengths above
          omega
      | cons caller inner =>
          obtain ⟨rfl, rest_eq⟩ := List.cons.inj split_eq
          obtain ⟨caller, rest⟩ := List.forall_mem_cons.mp confined
          exact ⟨within.memory, within.libraries, caller, inner, below, rest_eq, length_eq, rest⟩

/-- However the execution ends during a call, the memory is still isolated. -/
theorem isolates_of_closes {outcome : Outcome} (isolated : machine.Isolated before waiting)
    (quiet : ¬machine.InvokesNative host) (closes : machine.Closes host outcome) :
    before.Isolates outcome.shared.memory := by
  cases closes with
  | refuse current growth => exact isolated.memory.grow growth.memory
  | notLinked performs links | notEntered performs links =>
      have linked := (Program.links_of_link links).isolated (performs.isolated isolated).memory
      exact linked.memory
  | invoke invokes | discardInvoked invokes => exact absurd ⟨_, _, _, _, _, invokes⟩ quiet
  | discardFromLabel performs returns_eq discards
  | discardFromLibrary performs returns_eq callers_eq discards =>
      exact discards.isolates (performs.isolated isolated).memory
  | finish performs => exact (performs.isolated isolated).memory

/-! ## Calls -/

section Calls

variable {program : Program} {label : UInt64} {context : Context}

/-- A call of a library function that fails before the function begins leaves what its linking
leaves. -/
theorem shared_of_callLibrary {outcome : Outcome}
    (calls : machine.next host = (.ok (.callLibrary program label), context))
    (stepped : machine.step host = .finished outcome) :
    ∃ result linked, program.link host none false context.shared = (result, linked) ∧
      outcome.shared = linked.shared := by
  simp only [step, calls, enterLibrary] at stepped
  split at stepped
  · rename_i links
    cases stepped
    exact ⟨_, _, links, rfl⟩
  · rename_i links
    split at stepped
    · cases stepped
      exact ⟨_, _, links, rfl⟩
    · cases stepped

/-- A library function begins in the scope that its linking leaves. -/
theorem enters_of_callLibrary
    (calls : machine.next host = (.ok (.callLibrary program label), context))
    (stepped : machine.step host = .running next) :
    ∃ linked offset, program.link host none false context.shared = (.ok (), linked) ∧
      next =
        { shared := linked.shared
          current := ⟨program, linked.scope, machine.current.depth + 1, offset, []⟩
          callers := (machine.withContext context).current :: machine.callers } := by
  simp only [step, calls, enterLibrary] at stepped
  split at stepped
  · cases stepped
  · rename_i links
    split at stepped
    · cases stepped
    · cases stepped
      exact ⟨_, _, links, rfl⟩

/-- As long as a call of a library function goes on, it is isolated. -/
theorem isolated_of_runsAbove {entered inside : Machine}
    (loadable : ∀ program, host.Loadable program → program.AddressFree)
    (quiet : ∀ inside, entered.RunsAbove host waiting inside → ¬inside.InvokesNative host)
    (isolated : entered.Isolated before waiting) (runs : entered.RunsAbove host waiting inside) :
    inside.Isolated before waiting := by
  induction runs with
  | start => exact isolated
  | step runs stepped above ih =>
      exact isolated_of_passes ih loadable (quiet _ runs) (passes_of_step stepped) above

/-- A call of a library function, with the programs of all loaded and loadable libraries
without addresses.  If it fails before the function begins, the cells and lists that existed at
the call are the same.  Otherwise, if no function of the host is invoked during the call, they are
the same as long as it goes on, when a value is given back, and when the execution ends by
a fault. -/
theorem library_call_isolation
    (calls : machine.next host = (.ok (.callLibrary program label), context))
    (loaded : ∀ library ∈ machine.shared.libraries.loaded, library.program.AddressFree)
    (loadable : ∀ program, host.Loadable program → program.AddressFree) :
    (∀ outcome, machine.step host = .finished outcome →
      machine.shared.memory.Preserves outcome.shared.memory) ∧
    ∀ entered, machine.step host = .running entered →
      (∀ inside, entered.RunsAbove host entered.callers.length inside →
        ¬inside.InvokesNative host) →
      ∀ inside, entered.RunsAbove host entered.callers.length inside →
        machine.shared.memory.Preserves inside.shared.memory ∧
        (∀ value returned, inside.next host = (.ok (.ret value), returned) →
          machine.shared.memory.Preserves returned.shared.memory) ∧
        ∀ outcome, inside.step host = .finished outcome →
          machine.shared.memory.Preserves outcome.shared.memory := by
  have performs := performs_of_next calls
  have isolates := Memory.Isolates.refl machine.shared.memory
  have atCall := isolates.grow (performs.growsTo (by simp)).memory
  constructor
  · intro outcome stepped
    obtain ⟨_, linked, links, shared_eq⟩ := shared_of_callLibrary calls stepped
    rw [shared_eq]
    exact ((Program.links_of_link links).isolated atCall).memory.toPreserves
  · intro entered stepped quiet inside runs
    have initially : entered.Isolated machine.shared.memory entered.callers.length := by
      obtain ⟨linked, offset, links, rfl⟩ := enters_of_callLibrary calls stepped
      obtain ⟨isolated, addressFree, libraries⟩ :=
        isolated_of_enterLibrary performs links isolates loaded loadable
      exact ⟨isolated.memory, libraries, ⟨isolated.scope, addressFree⟩, [], _, rfl, rfl, by simp⟩
    have isolated := isolated_of_runsAbove loadable quiet initially runs
    constructor
    · exact isolated.memory.toPreserves
    · constructor
      · intro value returned next_eq
        exact ((performs_of_next next_eq).isolated isolated).memory.toPreserves
      · intro outcome ended
        exact (isolates_of_closes isolated (quiet inside runs) (closes_of_step ended)).toPreserves

end Calls

/-- A program that keeps a number and calls a library. -/
def listingProgram : Program where
  imports := []
  constants := [⟨1, .number .one⟩]
  vars := [⟨0, "result", .hidden⟩]
  functions := [⟨0, "main", .exported⟩]
  instructions := #[
    .make .label [.label 0],
    .make .call [.variable 0, .literal (.text "list")]]

/-- A library that gives back a list which it makes. -/
def listLibrary : Library where
  path := ⟨"list.cvm"⟩
  program :=
    { imports := []
      constants := []
      vars := [⟨0, "", .hidden⟩]
      functions := [⟨0, "list", .exported⟩]
      instructions := #[
        .make .label [.label 0],
        .make .newList [.variable 0],
        .make .ret [.variable 0]] }

/-- The program with the library loaded. -/
def listingEngine : Engine where
  program := listingProgram
  host := .empty
  shared := { SharedState.empty with libraries := ⟨[listLibrary]⟩ }
  scope := .empty

theorem library_call_isolation_listingEngine :
    ∃ initial machine entered inside value context,
      listingEngine.start Engine.mainEntry none false = .running initial ∧
        initial.run Host.empty 1 = .running machine ∧
        machine.step Host.empty = .running entered ∧
        entered.run Host.empty 2 = .running inside ∧
        inside.next Host.empty = (.ok (.ret value), context) ∧
        machine.shared.memory.Preserves context.shared.memory := by
  have states : ∃ initial machine called entered inside value context,
      listingEngine.start Engine.mainEntry none false = .running initial ∧
        initial.run Host.empty 1 = .running machine ∧
        machine.next Host.empty = (.ok (.callLibrary listLibrary.program 0), called) ∧
        machine.shared.libraries.loaded = [listLibrary] ∧
        machine.step Host.empty = .running entered ∧
        entered.run Host.empty 2 = .running inside ∧
        entered.RunsAbove Host.empty entered.callers.length inside ∧
        inside.next Host.empty = (.ok (.ret value), context) := by
    exact ⟨_, _, _, _, _, _, _, rfl, rfl, rfl, rfl, rfl, rfl,
      .step (.step .start rfl (Nat.le_refl 1)) rfl (Nat.le_refl 1), rfl⟩
  obtain ⟨initial, machine, called, entered, inside, value, context, starts, runs, calls, loaded_eq,
    stepped, continues, above, returns⟩ := states
  have loaded : ∀ library ∈ machine.shared.libraries.loaded, library.program.AddressFree := by
    rw [loaded_eq]
    decide
  -- The host has no directories to look for libraries in, and no functions.
  have loadable : ∀ program, Host.empty.Loadable program → program.AddressFree := by
    rintro program ⟨name, path, text, located, _⟩
    cases located
  have quiet (machine : Machine) : ¬machine.InvokesNative Host.empty := by
    rintro ⟨_, _, _, _, _, invokes⟩
    obtain ⟨_, _, _, does⟩ := (performs_of_next invokes).exists_does (by simp)
    cases does.call_of_callNative.2.2
  have isolation := (library_call_isolation calls loaded loadable).2 entered stepped
    (fun inside _ => quiet inside) inside above
  exact ⟨initial, machine, entered, inside, value, context, starts, runs, stepped, continues,
    returns, isolation.2.1 value context returns⟩

end Machine

end ScriptMachine
