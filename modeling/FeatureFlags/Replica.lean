import FeatureFlags.Store
import FeatureFlags.Tracker

/-!
A local copy of what the service holds, and how well it is kept up: the store, its health and that of
the data source that writes to it, and how the start of that data source came out. A write that fails
is a failure of the store, whatever the store failed with, and the store then stays as it was.
-/
namespace FeatureFlags

structure Replica where
  store : Store := {}
  tracker : Tracker := {}
  /-- Whether the data source has stored a whole dataset. -/
  initialized : Bool := false
  /-- How the start of the data source came out, once that is known. -/
  startup : Option (Except Failure Unit) := none
  /-- What writes fail with while the store is down. -/
  outage : Option Failure := none
  /-- What the listeners heard. -/
  heard : List Status := []
  storeHeard : List StoreStatus := []
  deriving Inhabited

def Failure.ofStore : Failure → Failure
  | .store text => .store text
  | failure => .store failure.message

namespace Replica

def report (r : Replica) (state : SourceState) (failure : Option FailureInfo := none) : Replica :=
  let tracker := r.tracker.update state failure
  { r with
    tracker
    heard := if r.tracker.isEffective state failure then r.heard ++ [tracker.status] else r.heard }

@[simp] theorem store_report (r : Replica) (state : SourceState) (failure : Option FailureInfo) :
    (r.report state failure).store = r.store := rfl

@[simp] theorem initialized_report (r : Replica) (state : SourceState)
    (failure : Option FailureInfo) : (r.report state failure).initialized = r.initialized := rfl

@[simp] theorem startup_report (r : Replica) (state : SourceState) (failure : Option FailureInfo) :
    (r.report state failure).startup = r.startup := rfl

def reportValid (r : Replica) : Replica := r.report .valid

def reportFailure (r : Replica) (failure : Failure) : Replica :=
  r.report (Tracker.stateAfter failure) (some (.ofFailure failure))

def isNews (r : Replica) (status : StoreStatus) : Bool := r.tracker.storeStatus != status

def reportStore (r : Replica) (status : StoreStatus) : Replica :=
  { r with
    tracker := r.tracker.updateStore status
    storeHeard := if r.isNews status then r.storeHeard ++ [status] else r.storeHeard }

/-- Tells how the start came out; only the first time counts. -/
def resolve (r : Replica) (result : Except Failure Unit) : Replica :=
  { r with startup := r.startup.or (some result) }

def write (r : Replica) (change : Store → Store) : Replica × Bool :=
  match r.outage with
  | some failure => (r.reportFailure failure.ofStore, false)
  | none => ({ r with store := change r.store }, true)

def upsert (r : Replica) (kind : Kind) (key : String) (descriptor : Descriptor) : Replica × Bool :=
  r.write fun store => (store.upsert kind key descriptor).1

def synchronize (r : Replica) (definitions : Definitions) : Replica × Bool :=
  let (r, written) := r.write (·.init (.ofDefinitions definitions))
  (if written then ({ r.reportValid with initialized := true }).resolve (.ok ()) else r, written)

/-- Takes note of a failure of the data source, which has failed to start if there is no use in going
on. -/
def fail (r : Replica) (failure : Failure) : Replica :=
  let r := r.reportFailure failure
  if failure.isRecoverable then r else r.resolve (.error failure)

def restarted (r : Replica) : Replica := { r with initialized := false, startup := none }

end Replica

end FeatureFlags
