import FeatureFlags.Source.Streaming

/-!
Runs of a streaming data source, and the account that goes with a run: which changes the store took,
which it refused, and which other failures there were, in order. The account is drawn up from what
reaches the source and from whether the store is down; it does not look at what the source makes of it.
-/
namespace FeatureFlags

inductive Change where
  | all (definitions : Definitions)
  | item (kind : Kind) (key : String) (descriptor : Descriptor)
  deriving Inhabited

namespace Change

def isWhole : Change → Bool
  | .all _ => true
  | .item .. => false

end Change

inductive Entry where
  | stored (change : Change)
  /-- The store was down. -/
  | refused (change : Change)
  /-- Connecting, reading or fetching failed. -/
  | failed (failure : Failure)
  deriving Inhabited

/-- What an update asks the store for, with what has to be fetched for it. -/
def Update.change (answers : Answers) : Update → Except Failure Change
  | .put definitions => .ok (.all definitions)
  | .patch kind key descriptor => .ok (.item kind key descriptor)
  | .delete kind key version => .ok (.item kind key (.tombstone version))
  | .fetchAll => answers.all.map .all
  | .fetchItem kind key => (answers.item key kind).map fun item => .item kind key (.ofItem item)

namespace Streaming

/-- What can happen to a data source. Where something is fetched, the answers tell what comes of it. -/
inductive Happening where
  | connect (answers : Answers) (result : Except Failure Unit)
  | receive (answers : Answers) (message : Message)
  | elapse
  | storeStatus (answers : Answers) (status : StoreStatus)
  /-- The store goes down, or it is back. -/
  | outage (failure : Option Failure)
  | close (answers : Answers) (pending : Except Failure Unit)
  deriving Inhabited

def step (s : Streaming) : Happening → Streaming
  | .connect answers result => s.connect answers result
  | .receive answers message => s.receive answers message
  | .elapse => s.elapse
  | .storeStatus answers status => s.reportStore answers status
  | .outage failure => { s with replica.outage := failure }
  | .close answers pending => s.close answers pending

def run (s : Streaming) (happenings : List Happening) : Streaming := happenings.foldl step s

/-- A data source that was just started, on a store that may hold data already. -/
def start (store : Store) (monitored : Bool) : Streaming := { replica := { store }, monitored }

/-- How an attempt to connect leaves the source, before the messages that were waiting. -/
def opened (s : Streaming) : Except Failure Unit → Streaming
  | .ok () => { s with inbox := [], phase := .connected, connections := s.connections + 1 }
  | .error failure => { s with inbox := [] }.fail failure

theorem connect_eq (answers : Answers) (s : Streaming) (result : Except Failure Unit) :
    s.connect answers result =
      if s.phase = .connecting then s.inbox.foldl (receive answers) (s.opened result) else s := by
  cases result <;> rfl

def updateEntry (answers : Answers) (s : Streaming) (update : Update) : Entry :=
  match update.change answers with
  | .ok change => if s.replica.outage.isSome then .refused change else .stored change
  | .error failure => .failed failure

def readEntries (answers : Answers) (s : Streaming) : Message → List Entry
  | .event c e =>
      if s.isCurrent c then
        match Update.ofEvent e with
        | .ok (some update) => [s.updateEntry answers update]
        | .ok none => []
        | .error failure => [.failed failure]
      else []
  | .closed c failure => if s.isCurrent c then [.failed (failure.getD closedByServer)] else []
  | .heartbeat _ | .storeStatus _ | .stop => []

/-- Messages count only while there is a connection. -/
def messageEntries (answers : Answers) (s : Streaming) (message : Message) : List Entry :=
  if s.phase = .connected then s.readEntries answers message else []

def waitingEntries (answers : Answers) : Streaming → List Message → List Entry
  | _, [] => []
  | s, message :: rest =>
      s.messageEntries answers message ++ waitingEntries answers (s.receive answers message) rest

def connectEntries (answers : Answers) (s : Streaming) (result : Except Failure Unit) : List Entry :=
  if s.phase = .connecting then
    (match result with
      | .ok () => []
      | .error failure => [.failed failure]) ++ waitingEntries answers (s.opened result) s.inbox
  else []

def settleEntries (answers : Answers) (result : Except Failure Unit) : Nat → Streaming → List Entry
  | 0, _ => []
  | n + 1, s =>
      if s.phase = .connecting then
        s.connectEntries answers result ++ settleEntries answers result n (s.connect answers result)
      else []

def closing (answers : Answers) (s : Streaming) : Streaming :=
  let s := { s with closed := true }.receive answers .stop
  { s with replica := s.replica.report .off }

theorem close_eq (answers : Answers) (s : Streaming) (pending : Except Failure Unit) :
    s.close answers pending =
      if s.closed then s
      else settle answers pending (s.closing answers).inbox.length (s.closing answers) := rfl

def stepEntries (s : Streaming) : Happening → List Entry
  | .connect answers result => s.connectEntries answers result
  | .receive answers message => s.messageEntries answers message
  | .close answers pending =>
      if s.closed then []
      else settleEntries answers pending (s.closing answers).inbox.length (s.closing answers)
  | .elapse | .storeStatus .. | .outage _ => []

def entries : Streaming → List Happening → List Entry
  | _, [] => []
  | s, happening :: rest => s.stepEntries happening ++ entries (s.step happening) rest

end Streaming

end FeatureFlags
