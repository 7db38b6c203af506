import FeatureFlags.Proofs.StreamingRun

/-!
What an account makes of a local copy. Each line stands for one change of the copy, and this is all
that a streaming source does to its copy: whatever reaches the source, its copy is afterwards what
the lines that are entered make of the copy before.
-/
namespace FeatureFlags

namespace Store

def enter (store : Store) : Entry → Store
  | .stored (.all definitions) => store.init (.ofDefinitions definitions)
  | .stored (.item kind key descriptor) => (store.upsert kind key descriptor).1
  | .refused _ | .failed _ => store

end Store

namespace Replica

def attempt (r : Replica) (change : Change) : Entry :=
  if r.outage.isSome then .refused change else .stored change

/-- What a line makes of a copy. A change is refused only while there is an outage. -/
def enter (r : Replica) (entry : Entry) : Replica :=
  let taken : Replica := { r with store := r.store.enter entry }
  match entry with
  | .stored (.all _) => ({ taken.reportValid with initialized := true }).resolve (.ok ())
  | .stored (.item ..) => if r.initialized then taken.reportValid else taken
  | .refused _ => r.reportFailure (r.outage.getD default).ofStore
  | .failed failure => r.fail failure

def enterAll (r : Replica) (account : List Entry) : Replica := account.foldl enter r

@[simp] theorem store_fail (r : Replica) (failure : Failure) : (r.fail failure).store = r.store := by
  unfold fail reportFailure
  split <;> rfl

@[simp] theorem store_enter (r : Replica) (entry : Entry) :
    (r.enter entry).store = r.store.enter entry := by
  rcases entry with ⟨_ | _⟩ | _ | failure
  · rfl
  · simp only [enter]
    split <;> rfl
  · rfl
  · exact r.store_fail failure

/-- The store of a copy is what the account makes of it, line by line. -/
theorem store_enterAll (r : Replica) (account : List Entry) :
    (r.enterAll account).store = account.foldl Store.enter r.store := by
  induction account generalizing r with
  | nil => rfl
  | cons entry rest ih => exact (ih (r.enter entry)).trans (by rw [store_enter]; rfl)

theorem enterAll_append (r : Replica) (first second : List Entry) :
    r.enterAll (first ++ second) = (r.enterAll first).enterAll second := List.foldl_append

theorem write_of_up {r : Replica} (h : r.outage = none) (change : Store → Store) :
    r.write change = ({ r with store := change r.store }, true) := by
  rw [write, h]

theorem write_of_down {r : Replica} {failure : Failure} (h : r.outage = some failure)
    (change : Store → Store) : r.write change = (r.reportFailure failure.ofStore, false) := by
  rw [write, h]

/-- A whole dataset is entered as stored, or as refused while there is an outage. -/
theorem synchronize_fst (r : Replica) (definitions : Definitions) :
    (r.synchronize definitions).1 = r.enter (r.attempt (.all definitions)) := by
  unfold synchronize attempt
  cases houtage : r.outage with
  | some failure =>
    rw [write_of_down houtage]
    simp [enter, houtage]
  | none =>
    rw [write_of_up houtage]
    rfl

end Replica

namespace Streaming

variable (answers : Answers) (s : Streaming)

theorem replica_afterWrite (written : Bool) : (s.afterWrite written).replica = s.replica := by
  unfold afterWrite
  split <;> rfl

theorem replica_put (definitions : Definitions) :
    (s.put definitions).replica = s.replica.enter (s.replica.attempt (.all definitions)) := by
  rw [← Replica.synchronize_fst]
  exact replica_afterWrite _ _

theorem replica_upsert (kind : Kind) (key : String) (descriptor : Descriptor) :
    (s.upsert kind key descriptor).replica =
      s.replica.enter (s.replica.attempt (.item kind key descriptor)) := by
  unfold upsert Replica.upsert Replica.attempt
  cases houtage : s.replica.outage with
  | some failure =>
    rw [Replica.write_of_down houtage, replica_afterWrite]
    simp [Replica.enter, houtage]
  | none =>
    rw [Replica.write_of_up houtage, replica_afterWrite]
    rfl

/-- An update does to the copy what it enters. -/
theorem replica_apply (update : Update) :
    (s.apply answers update).replica = s.replica.enter (s.updateEntry answers update) := by
  cases update with
  | put definitions => exact s.replica_put definitions
  | patch kind key descriptor => exact s.replica_upsert kind key descriptor
  | delete kind key version => exact s.replica_upsert kind key (.tombstone version)
  | fetchAll =>
    simp only [apply, updateEntry, Update.change]
    cases answers.all with
    | ok definitions => exact (s.fetching .all).replica_put definitions
    | error failure => rfl
  | fetchItem kind key =>
    simp only [apply, updateEntry, Update.change]
    cases answers.item key kind with
    | ok item => exact (s.fetching (.item kind key)).replica_upsert kind key (.ofItem item)
    | error failure => rfl

theorem replica_read (message : Message) :
    (s.read answers message).replica = s.replica.enterAll (s.readEntries answers message) := by
  cases message with
  | event c e =>
    simp only [read, readEntries, handle]
    cases s.isCurrent c with
    | false => rfl
    | true =>
      cases Update.ofEvent e with
      | error failure => rfl
      | ok update =>
        cases update with
        | none => rfl
        | some update => exact s.replica_apply answers update
  | heartbeat c => rfl
  | closed c failure =>
    simp only [read, readEntries]
    split <;> rfl
  | storeStatus status =>
    simp only [read]
    split <;> rfl
  | stop => rfl

/-- So does a message, whatever the phase. -/
theorem replica_receive (message : Message) :
    (s.receive answers message).replica = s.replica.enterAll (s.messageEntries answers message) := by
  unfold receive messageEntries
  cases s.phase with
  | connecting => rfl
  | connected => exact s.replica_read answers message
  | delayed =>
    simp only [reduceCtorEq, if_false]
    split <;> rfl
  | ended => rfl

theorem replica_waiting (messages : List Message) :
    (messages.foldl (receive answers) s).replica =
      s.replica.enterAll (waitingEntries answers s messages) := by
  induction messages generalizing s with
  | nil => rfl
  | cons message rest ih =>
    rw [waitingEntries, Replica.enterAll_append, ← replica_receive]
    exact ih (s.receive answers message)

/-- So does the outcome of connecting, with all messages that waited for it. -/
theorem replica_connect (result : Except Failure Unit) :
    (s.connect answers result).replica = s.replica.enterAll (s.connectEntries answers result) := by
  rw [connect_eq]
  unfold connectEntries
  split
  · rw [Replica.enterAll_append, replica_waiting]
    cases result <;> rfl
  · rfl

end Streaming

end FeatureFlags
