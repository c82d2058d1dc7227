/-!
What commands need of the system that they run on.

A `Host` gives files and environment variables, in any monad. `Directory` is a host
that is all data: a directory with files in it and no directories.
-/

namespace Roster.Command

/-- The system that a command runs on. -/
structure Host (m : Type → Type) where
  /-- The text of a file, or why it cannot be read. -/
  readText : String → m (Except String String)
  /-- There is a file or directory at a path. -/
  isPresent : String → m Bool
  /-- Opens a file to append to it, and makes it if it is not there. Gives the reason if
  that is not possible. -/
  openLog : String → m (Option String)
  /-- The environment variables. -/
  environment : m (List (String × String))

/-- Why a path is no readable file. -/
inductive PathProblem where
  | missing
  | notDirectory
  | isDirectory
  deriving DecidableEq, Repr

/-- A problem as systems report it. -/
def PathProblem.message : PathProblem → String
  | .missing => "No such file or directory (os error 2)"
  | .notDirectory => "Not a directory (os error 20)"
  | .isDirectory => "Is a directory (os error 21)"

/-- A directory with files in it, by their names, and environment variables. -/
structure Directory where
  files : List (String × String) := []
  environment : List (String × String) := []
  deriving Repr

namespace Directory

/-- The names on a path, without those for the place itself. -/
def names (path : String) : List String :=
  ((path.toList.splitOn '/').map .ofList).filter fun name => name ≠ "" && name ≠ "."

/-- The name in the directory that a path leads to. The path leads to no file if it is
the directory itself, or if it goes on below a name. -/
def nameAt (d : Directory) (path : String) : Except PathProblem String :=
  match names path with
  | [] => .error .isDirectory
  | [name] => .ok name
  | name :: _ => .error (if (d.files.lookup name).isSome then .notDirectory else .missing)

/-- The text of the file at a path. -/
def textAt (d : Directory) (path : String) : Except PathProblem String := do
  match d.files.lookup (← d.nameAt path) with
  | some text => .ok text
  | none => .error .missing

/-- There is something at a path. -/
def has (d : Directory) (path : String) : Bool :=
  (names path).isEmpty || (d.textAt path).isOk

/-- The directory with a file at a path, which is empty if it is new. -/
def withFile (d : Directory) (path : String) : Except PathProblem Directory := do
  let name ← d.nameAt path
  .ok (if (d.files.lookup name).isSome then d else { d with files := d.files ++ [(name, "")] })

/-- Commands on a directory alone. -/
def host : Host (StateM Directory) where
  readText := fun path => do
    return (← get).textAt path |>.mapError PathProblem.message
  isPresent := fun path => do
    return (← get).has path
  openLog := fun path => do
    match (← get).withFile path with
    | .ok d =>
      set d
      return none
    | .error problem => return some problem.message
  environment := do
    return (← get).environment

end Directory

end Roster.Command
