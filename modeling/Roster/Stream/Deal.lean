import Roster.Event
import Roster.Suite.Specification

/-!
Dealing specifications to streams.

`deal` hands the specifications out in turn, like cards: the one at index `i` goes
to stream `i % streams`. `share` is what one stream gets, and `pickGroup` is the
share of one group, counted from one, with the strategy that running a group alone
sets. Only a deal to no stream at all fails.
-/

namespace Roster

/-- The specifications that stream `j` of `streams` gets. -/
def share (specs : List Specification) (streams j : Nat) : List Specification :=
  (specs.zipIdx.filter fun entry => entry.2 % streams == j).map Prod.fst

/-- The specifications dealt in turn to `streams` buckets, empty ones included. -/
def deal (specs : List Specification) (streams : Nat) : Except Fault (List Bucket) :=
  if streams = 0 then .error (.streamCount 0)
  else .ok ((List.range streams).map fun j => ⟨share specs streams j⟩)

/-- The share of one group, to be run alone. -/
structure GroupShare where
  group : Nat
  specs : List Specification
  /-- The strategy in force, which is always eager. -/
  strategy : Strategy
  /-- What is said when another strategy was asked for. -/
  notice : Option String
  deriving DecidableEq, Repr, Inhabited

/-- The share of group `group` of `streams`, counted from one. A group that is not
there has no specifications. -/
def pickGroup (specs : List Specification) (group streams : Nat) (configured : Strategy) :
    Except Fault (Logged GroupShare) :=
  if streams = 0 then .error (.streamCount 0)
  else
    let picked :=
      if 1 ≤ group ∧ group ≤ streams then share specs streams (group - 1) else []
    if configured = .eager then
      .ok ⟨⟨group, picked, .eager, none⟩, []⟩
    else
      .ok ⟨⟨group, picked, .eager, some Strategy.overrideNotice⟩, [.strategyOverridden]⟩

end Roster
