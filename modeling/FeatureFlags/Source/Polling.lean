import FeatureFlags.Replica

/-!
A data source that asks for the whole dataset again and again. It gives up when the answer is a failure
that will not pass, and it stops when it is closed.
-/
namespace FeatureFlags

inductive Polling.Phase where
  /-- A fetch is under way. -/
  | fetching
  /-- The next fetch is not due yet. -/
  | resting
  | ended
  deriving DecidableEq, Inhabited

structure Polling where
  replica : Replica := {}
  phase : Polling.Phase := .fetching
  closed : Bool := false
  deriving Inhabited

namespace Polling

def respond (p : Polling) (answer : Except Failure Definitions) : Polling :=
  match p.phase, answer with
  | .fetching, .ok definitions =>
      { p with replica := (p.replica.synchronize definitions).1, phase := .resting }
  | .fetching, .error failure =>
      { p with
        replica := p.replica.fail failure
        phase := if failure.isRecoverable then .resting else .ended }
  | _, _ => p

def elapse (p : Polling) : Polling :=
  if p.phase = .resting then { p with phase := .fetching } else p

/-- Stops polling. A fetch under way is waited for, and its answer still counts. The source is told to
stop first and reports itself off then; both are one step here, though it may end in between. -/
def close (p : Polling) (pending : Except Failure Definitions) : Polling :=
  if p.closed then p
  else
    let p := { p with replica := p.replica.report .off }
    { p.respond pending with phase := .ended, closed := true }

end Polling

end FeatureFlags
