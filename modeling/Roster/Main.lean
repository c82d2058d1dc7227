import Roster.Command.Run

/-!
The program: the commands on the system's own files, variables and streams.
-/

namespace Roster.Command

/-- What a system error says, with its number. -/
def systemProblem (e : IO.Error) : String :=
  match e with
  | .noFileOrDirectory _ code details => s!"{details} (os error {code})"
  | .permissionDenied _ code details => s!"{details} (os error {code})"
  | .inappropriateType _ code details => s!"{details} (os error {code})"
  | .otherError code details => s!"{details} (os error {code})"
  | e => toString e

/-- The entries of an environment block, in which each ends with a null character. -/
def environmentEntries (block : String) : List (String × String) :=
  (block.toList.splitOn '\x00').filterMap fun entry =>
    match entry.span (· != '=') with
    | (name, _ :: value) => some (.ofList name, .ofList value)
    | _ => none

/-- The text of a file of the system, or why it cannot be read. -/
def readSystemText (path : String) : IO (Except String String) := do
  try
    let file ← IO.FS.Handle.mk path .read
    match String.fromUTF8? (← file.readBinToEnd) with
    | some text => return .ok text
    | none => return .error "stream did not contain valid UTF-8"
  catch e => return .error (systemProblem e)

/-- The system that the program runs on. -/
def systemHost : Host IO where
  readText := readSystemText
  isPresent := fun path => do
    try
      let _ ← IO.FS.realPath path
      return true
    catch _ => return false
  openLog := fun path => do
    try
      let _ ← IO.FS.Handle.mk path .append
      return none
    catch e => return some (systemProblem e)
  environment := do
    match ← readSystemText "/proc/self/environ" with
    | .ok block => return environmentEntries block
    | .error _ => return []

/-- Prints what is to be seen of a command, and gives its exit status. -/
def Ending.print (e : Ending) : IO UInt32 := do
  (← IO.getStdout).putStr e.out
  (← IO.getStderr).putStr e.err
  return e.status.toUInt32

end Roster.Command

open Roster.Command in
/-- Runs the command that the arguments name. -/
def main (args : List String) : IO UInt32 := do
  match Invocation.ofArgs args with
  | .error stop => stop.ending.print
  | .ok i =>
    let reader ←
      if i.common.json || !(← (← IO.getStdout).isTty) then pure Reader.tool
      else pure (Reader.person (← (← IO.getStderr).isTty))
    (← run systemHost reader i).print
