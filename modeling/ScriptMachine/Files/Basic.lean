import ScriptMachine.Files.Path

/-!
# Files

The files that a host offers, as data: a tree of directories below the root, given by the
names that lead from the root to each node, and the working directory, from which relative
paths are followed.  Reading a text fails for one of the reasons of `ReadFailure`.
-/

namespace ScriptMachine

/-- A node of the tree. -/
inductive FileNode where
  | directory
  | file (content : ByteArray)

/-- Why a text cannot be read from a path. -/
inductive ReadFailure where
  | notFound
  | notDirectory
  | isDirectory
  | nameTooLong
  | invalidName
  | invalidEncoding
  deriving DecidableEq

/-- The reason for a failure as messages state it. -/
def ReadFailure.message : ReadFailure → String
  | .notFound => "No such file or directory (os error 2)"
  | .notDirectory => "Not a directory (os error 20)"
  | .isDirectory => "Is a directory (os error 21)"
  | .nameTooLong => "File name too long (os error 36)"
  | .invalidName => "file name contained an unexpected NUL byte"
  | .invalidEncoding => "stream did not contain valid UTF-8"

/-- The nodes of a tree of files by the names that lead to them, and the names that lead to
the working directory.  This and all directories on the way to it, of which the root is the
first, always exist. -/
structure Files where
  nodes : List (List String × FileNode)
  working : List String

namespace Files

/-- The tree with nothing in the working directory, which is in the root. -/
def empty : Files := ⟨[], ["work"]⟩

instance : Inhabited Files := ⟨empty⟩

/-- The node to which names lead. -/
def node? (files : Files) (names : List String) : Option FileNode :=
  if names.isPrefixOf files.working then some .directory else files.nodes.lookup names

/-- Whether a name is longer than the names of files can be. -/
def isTooLong (name : String) : Bool := name.utf8ByteSize > 255

/-- Follows steps from the node to which `names` lead.  Above the root is the root. -/
def follow (files : Files) (names : List String) :
    List PathStep → Except ReadFailure FileNode
  | [] =>
      match files.node? names with
      | some node => .ok node
      | none => .error .notFound
  | step :: rest =>
      match files.node? names with
      | none => .error .notFound
      | some (.file _) => .error .notDirectory
      | some .directory =>
          match step with
          | .root => files.follow [] rest
          | .current => files.follow names rest
          | .parent => files.follow names.dropLast rest
          | .name name =>
              if isTooLong name then .error .nameTooLong
              else files.follow (names ++ [name]) rest

/-- Whether a path asks for a directory by the way it ends. -/
def endsAsDirectory (path : Path) : Bool :=
  match (Path.pieces path.text.toList).getLast? with
  | some piece => piece = [] ∨ piece = ['.']
  | none => false

/-- The node at a path. -/
def open? (files : Files) (path : Path) : Except ReadFailure FileNode :=
  if path.text.toList.contains '\x00' then .error .invalidName
  else if path.text.isEmpty then .error .notFound
  else if path.text.utf8ByteSize > 4095 then .error .nameTooLong
  else
    match files.follow files.working path.steps with
    | .ok (.file content) =>
        if endsAsDirectory path then .error .notDirectory else .ok (.file content)
    | other => other

/-- Whether there is a file at a path. -/
def isFile (files : Files) (path : Path) : Bool :=
  match files.open? path with
  | .ok (.file _) => true
  | _ => false

/-- The text of the file at a path. -/
def readText (files : Files) (path : Path) : Except ReadFailure String :=
  match files.open? path with
  | .error failure => .error failure
  | .ok .directory => .error .isDirectory
  | .ok (.file content) =>
      match String.fromUTF8? content with
      | some text => .ok text
      | none => .error .invalidEncoding

/-- The names that lead to where a step goes from where other names lead. -/
def after (names : List String) : PathStep → List String
  | .root => []
  | .current => names
  | .parent => names.dropLast
  | .name name => names ++ [name]

/-- The names that lead to a path. -/
def namesOf (files : Files) (path : Path) : List String := path.steps.foldl after files.working

/-- Puts a node where names lead. -/
def put (files : Files) (names : List String) (node : FileNode) : Files :=
  { files with nodes := (names, node) :: files.nodes.filter fun entry => entry.1 ≠ names }

/-- Makes the directories along steps from where names lead. -/
def makeDirectories (files : Files) (names : List String) : List PathStep → Files
  | [] => files
  | step :: rest =>
      let names := after names step
      match files.node? names with
      | some _ => files.makeDirectories names rest
      | none => (files.put names .directory).makeDirectories names rest

/-- Makes a directory, with all directories on the way to it. -/
def makeDirectory (files : Files) (path : Path) : Files :=
  files.makeDirectories files.working path.steps

/-- Writes a file, and makes all directories on the way to it. -/
def write (files : Files) (path : Path) (content : ByteArray) : Files :=
  (files.makeDirectories files.working path.steps.dropLast).put (files.namesOf path) (.file content)

/-- Removes the file at a path, if there is one. -/
def remove (files : Files) (path : Path) : Files :=
  if files.isFile path then
    { files with nodes := files.nodes.filter fun entry => entry.1 ≠ files.namesOf path }
  else files

end Files

end ScriptMachine
