import ScriptMachine.Fault
import ScriptMachine.Memory.Basic

/-!
# Hosts

What a host provides to the programs that it runs: functions, some registered by name and
some in modules, the files of libraries and where to look for them, and a bound on the
depth of calls.  Nothing of this changes during an execution.

The identities of host functions count up in the order of registration and are never used
again, so that they stay valid for the life of the host.
-/

namespace ScriptMachine

/-- A host function: from its arguments and the memory to a result and the memory it
leaves.  Its outcome depends on nothing else, so a function with a state of its own is one of
these only if it keeps that state in the memory. -/
abbrev NativeFunction := List Value → Memory → Except HostError Value × Memory

/-- The depth of calls that is allowed unless a host sets another. -/
def defaultMaxDepth : Nat := 1024

/-- What is there for programs to use. -/
structure Host where
  /-- All host functions by identity. -/
  natives : Array NativeFunction
  /-- The functions registered by name, in order. -/
  functions : List (String × NativeId)
  /-- The functions of modules, in order. -/
  modules : List (String × List (String × NativeId))
  /-- The directories in which libraries are looked for, in order. -/
  searchPaths : List Path
  maxDepth : Nat
  files : Files
  /-- How the texts of library files are read as programs. -/
  reader : ProgramReader

namespace Host

/-- The host that provides nothing, with a reader for the files that it may get. -/
def ofReader (reader : ProgramReader) : Host :=
  ⟨#[], [], [], [], defaultMaxDepth, .empty, reader⟩

/-- The host that provides nothing and reads nothing. -/
def empty : Host := ofReader .refusing

instance : Inhabited Host := ⟨empty⟩

/-- The function of an identity. -/
def native? (host : Host) (id : NativeId) : Option NativeFunction :=
  host.natives[id.index]?

/-- Gives a function an identity. -/
def addNative (host : Host) (function : NativeFunction) : NativeId × Host :=
  (⟨host.natives.size⟩, { host with natives := host.natives.push function })

/-- Registers a function by name, before all imports of programs. -/
def registerFunction (host : Host) (name : String) (function : NativeFunction) :
    NativeId × Host :=
  let (id, host) := host.addNative function
  (id, { host with functions := host.functions ++ [(name, id)] })

/-- Gives named functions identities, in order. -/
def addNatives (host : Host) :
    List (String × NativeFunction) → List (String × NativeId) × Host
  | [] => ([], host)
  | (name, function) :: rest =>
      let (id, host) := host.addNative function
      let (others, host) := host.addNatives rest
      ((name, id) :: others, host)

/-- Registers a module, in place of any module of that name. -/
def registerModule (host : Host) (name : String)
    (functions : List (String × NativeFunction)) : Host :=
  let (entries, host) := host.addNatives functions
  { host with
    modules := (name, entries) :: host.modules.filter fun entry => entry.1 ≠ name }

/-- The functions of a module. -/
def module? (host : Host) (name : String) : Option (List (String × NativeId)) :=
  host.modules.lookup name

end Host

end ScriptMachine
