/-!
How much a command says about its work.
-/

namespace Roster.Command

/-- The least urgent level that is logged, for a count of requests to say more. -/
def logLevel (verbosity : Nat) (quiet : Bool) : String :=
  if quiet then "error"
  else match verbosity with
    | 0 => "warn"
    | 1 => "info"
    | 2 => "debug"
    | _ => "trace"

end Roster.Command
