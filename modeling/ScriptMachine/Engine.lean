import ScriptMachine.Machine.Basic

/-!
# Engines

An engine holds a program, the host that it runs on and the state that its executions
leave: the shared state and the scope of the last one.  Memory is kept from one execution to
the next, so that values found after one can be passed to another.

An execution is begun by linking the program, and a number of steps bounds it.  What does
not end within the bound has no result.
-/

namespace ScriptMachine

/-- A program with what it needs for executions. -/
structure Engine where
  program : Program
  host : Host
  shared : SharedState
  scope : Scope

namespace Engine

/-- An engine for a program, with nothing else but a reader for the programs of libraries. -/
def ofProgram (program : Program) (reader : ProgramReader := .refusing) : Engine :=
  ⟨program, .ofReader reader, .empty, .empty⟩

/-- Links the program and takes a machine to the entry. -/
def start (engine : Engine) (entry : Entry) (arguments : Option (List Value))
    (fresh : Bool) : Status :=
  match engine.program.link engine.host arguments fresh engine.shared with
  | (.error error, linked) => .finished ⟨.error error, linked.shared, linked.scope⟩
  | (.ok (), linked) =>
      match linked.scope.entryOffset entry with
      | .error cause =>
          .finished ⟨.error (.fault cause none), linked.shared, linked.scope⟩
      | .ok offset =>
          .running
            { shared := linked.shared
              current := ⟨engine.program, linked.scope, 0, offset, []⟩
              callers := [] }

/-- The engine after an execution. -/
def settle (engine : Engine) (outcome : Outcome) : Engine :=
  { engine with shared := outcome.shared, scope := outcome.scope }

/-- Executes the program within a number of steps, and lets an observer see the machine
before each.  There is no result, and the engine stays as it was, if the steps do not
suffice. -/
def executeObserved {α : Type} (engine : Engine) (observe : α → Machine → α) (seen : α)
    (steps : Nat) (entry : Entry) (arguments : Option (List Value)) (fresh : Bool) :
    α × Option (Except ExecutionError Value) × Engine :=
  let (seen, status) :=
    match engine.start entry arguments fresh with
    | .running machine => machine.runObserved engine.host observe steps seen
    | finished => (seen, finished)
  match status with
  | .running _ => (seen, none, engine)
  | .finished outcome => (seen, some outcome.result, engine.settle outcome)

/-- Executes the program within a number of steps. -/
def execute (engine : Engine) (steps : Nat) (entry : Entry)
    (arguments : Option (List Value)) (fresh : Bool) :
    Option (Except ExecutionError Value) × Engine :=
  (engine.executeObserved (fun seen _ => seen) () steps entry arguments fresh).2

/-- The function at which a program begins unless another is asked for. -/
def mainEntry : Entry := .function "main"

/-- The value of an exported variable. -/
def lookupVariable (engine : Engine) (name : String) : Option Value × Engine :=
  match (engine.scope.vars.resolve? name).bind engine.scope.vars.get? with
  | none => (none, engine)
  | some binding =>
      let (value, memory) := engine.shared.memory.readSlot binding.target
      (some value, { engine with shared.memory := memory })

/-- Stores a value in an exported variable, and tells whether there is one with a cell. -/
def setVariable (engine : Engine) (name : String) (value : Value) : Bool × Engine :=
  match ((engine.scope.vars.resolve? name).bind engine.scope.vars.get?).bind
      Binding.target with
  | none => (false, engine)
  | some address =>
      (true, { engine with shared.memory := engine.shared.memory.write address value })

end Engine

end ScriptMachine
