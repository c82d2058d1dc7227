import Roster.Outcome.Spec

/-!
The outcome of a suite: what the streams report, put together once all are done.
-/

namespace Roster

/-- What is reported on a suite. -/
structure SuiteOutcome where
  specs : List SpecOutcome
  time : Nat
  failedCount : Nat
  skippedCount : Nat
  isFailed : Bool
  deriving DecidableEq, Repr

namespace SuiteOutcome

/-- The outcomes of all streams, stream by stream. A specification that failed does
not count as skipped. -/
def join (streams : List (List SpecOutcome)) : SuiteOutcome :=
  let specs := streams.flatten
  let failed := specs.countP SpecOutcome.isFailed
  { specs := specs
    time := specs.foldl (fun total r => total + r.time) 0
    failedCount := failed
    skippedCount := specs.countP fun r => r.skipped && !r.isFailed
    isFailed := failed > 0 }

end SuiteOutcome

end Roster
