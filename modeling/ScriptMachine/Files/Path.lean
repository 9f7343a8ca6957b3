/-!
# Paths

A path is kept as it was written, because that is how it is shown.  Two paths are the
same when their components are: repeated and final separators and inner points do not
count, while a point at the beginning does.
-/

namespace ScriptMachine

/-- One step of a path. -/
inductive PathStep where
  /-- The root, at the beginning of an absolute path. -/
  | root
  /-- A point at the beginning of a relative path. -/
  | current
  /-- Two points. -/
  | parent
  /-- The name of a file or directory. -/
  | name (text : String)
  deriving DecidableEq

/-- A path as it was written. -/
structure Path where
  text : String
  deriving DecidableEq

namespace Path

/-- The pieces of a text between separators. -/
def pieces (text : List Char) : List (List Char) :=
  match text with
  | [] => [[]]
  | '/' :: rest => [] :: pieces rest
  | char :: rest =>
      match pieces rest with
      | [] => [[char]]
      | piece :: others => (char :: piece) :: others

/-- The step for a piece, if there is one. -/
def stepOfPiece? (piece : List Char) : Option PathStep :=
  if piece = [] ∨ piece = ['.'] then none
  else if piece = ['.', '.'] then some .parent
  else some (.name (String.ofList piece))

/-- The steps of a path. -/
def steps (path : Path) : List PathStep :=
  match pieces path.text.toList with
  | [] => []
  | first :: rest =>
      let others := rest.filterMap stepOfPiece?
      if first = [] then if rest = [] then [] else .root :: others
      else if first = ['.'] then .current :: others
      else (stepOfPiece? first).toList ++ others

/-- Whether two paths have the same steps. -/
def same (left right : Path) : Bool := left.steps = right.steps

/-- The path of a file inside a directory; an absolute file stands for itself. -/
def join (directory : Path) (file : String) : Path :=
  if file.toList.head? = some '/' ∨ directory.text.isEmpty then ⟨file⟩
  else if directory.text.toList.getLast? = some '/' then ⟨directory.text ++ file⟩
  else ⟨directory.text ++ "/" ++ file⟩

end Path

end ScriptMachine
