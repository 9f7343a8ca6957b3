import ScriptMachine.Fault
import ScriptMachine.Task

/-!
# Libraries

The programs that were loaded from files, by the order in which they were loaded.  A path
is loaded at most once: a path that is the same as a loaded one stands for the program
that was loaded then, whatever the file holds now.
-/

namespace ScriptMachine

/-- A program with the path it was loaded from. -/
structure Library where
  path : Path
  program : Program
  deriving DecidableEq

/-- The functions that a library exports, when it is the one at an index. -/
def Library.exports (library : Library) (index : Nat) : List (String × FunctionReference) :=
  library.program.exports.map fun (name, label) => (name, ⟨index, label⟩)

/-- The loaded libraries, in order. -/
structure Libraries where
  loaded : List Library
  deriving DecidableEq

namespace Libraries

/-- No libraries. -/
def empty : Libraries := ⟨[]⟩

instance : Inhabited Libraries := ⟨empty⟩

/-- The number of libraries. -/
def size (libraries : Libraries) : Nat := libraries.loaded.length

/-- The library at an index. -/
def get? (libraries : Libraries) (index : Nat) : Option Library :=
  libraries.loaded[index]?

/-- The index of the library that was loaded from a path. -/
def find? (libraries : Libraries) (path : Path) : Option Nat :=
  libraries.loaded.findIdx? fun library => library.path.same path

/-- Adds a program under a path, unless the path is loaded, and returns its index. -/
def insert (libraries : Libraries) (path : Path) (program : Program) : Nat × Libraries :=
  match libraries.find? path with
  | some index => (index, libraries)
  | none => (libraries.size, ⟨libraries.loaded ++ [⟨path, program⟩]⟩)

/-- Loads the program of a file, unless its path is loaded, and returns its index. -/
def load (reader : ProgramReader) (files : Files) (path : Path) : Task Libraries Nat := do
  match (← get).find? path with
  | some index => return index
  | none =>
      match files.readText path with
      | .error failure => throw (.invalidLibrary path (.unreadable failure))
      | .ok text =>
          match reader text with
          | .error reason => throw (.invalidLibrary path (.undecodable reason))
          | .ok program => Task.ofUpdate (·.insert path program)

/-- The libraries with their indices. -/
def toList (libraries : Libraries) : List (Nat × Library) :=
  libraries.loaded.zipIdx.map fun (library, index) => (index, library)

/-- The functions that all libraries export, in order. -/
def exports (libraries : Libraries) : List (String × FunctionReference) :=
  libraries.toList.flatMap fun (index, library) => library.exports index

end Libraries

/-- The ending of the names of library files. -/
def libraryEnding : String := ".cvm"

/-- The path of the first file for a library in a list of directories. -/
def locateLibrary? (files : Files) (directories : List Path) (name : String) :
    Option Path :=
  (directories.map (·.join (name ++ libraryEnding))).find? files.isFile

end ScriptMachine
