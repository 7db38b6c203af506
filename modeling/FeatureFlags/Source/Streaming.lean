import FeatureFlags.Fetch
import FeatureFlags.Replica
import FeatureFlags.Source.Update

/-!
A data source that listens to the service's event stream. It keeps one connection open and opens
another one, after a delay, when that is lost or an event on it does not read. Messages wait while a
connection is being opened and count for nothing during the delay, and what comes from a connection
that was given up counts for nothing at any time. A store that tells of its own health is written to
further after a failed write, until it asks for a refresh; otherwise a failed write is a reason to
connect again.
-/
namespace FeatureFlags

namespace Streaming

inductive Phase where
  /-- A connection is being opened. -/
  | connecting
  | connected
  /-- The next connection is not due yet. -/
  | delayed
  | ended
  deriving DecidableEq, Inhabited

/-- What reaches a data source; connections are numbered as they were opened. -/
inductive Message where
  | event (connection : Nat) (event : EventStream.Event)
  | heartbeat (connection : Nat)
  | closed (connection : Nat) (failure : Option Failure)
  | storeStatus (status : StoreStatus)
  | stop
  deriving Inhabited

def Message.connection? : Message → Option Nat
  | .event c _ | .heartbeat c | .closed c _ => some c
  | .storeStatus _ | .stop => none

def Message.ofRead (connection : Nat) : Except Failure EventStream.Message → Message
  | .ok (.event e) => .event connection e
  | .ok (.comment _) => .heartbeat connection
  | .error failure => .closed connection (some failure)

end Streaming

structure Streaming where
  replica : Replica := {}
  /-- Whether the store tells of its own health. -/
  monitored : Bool := false
  phase : Streaming.Phase := .connecting
  /-- How many connections were opened. -/
  connections : Nat := 0
  /-- The messages that wait for a connection. -/
  inbox : List Streaming.Message := []
  /-- What was fetched. -/
  fetches : List Fetch := []
  closed : Bool := false
  deriving Inhabited

namespace Streaming

def closedByServer : Failure := .io "stream closed by server"

def isCurrent (s : Streaming) (connection : Nat) : Bool := connection + 1 == s.connections

def fail (s : Streaming) (failure : Failure) : Streaming :=
  { s with
    replica := s.replica.fail failure
    phase := if failure.isRecoverable then .delayed else .ended }

def afterWrite (s : Streaming) (written : Bool) : Streaming :=
  if written || s.monitored then s else { s with phase := .delayed }

def put (s : Streaming) (definitions : Definitions) : Streaming :=
  let (replica, written) := s.replica.synchronize definitions
  { s with replica }.afterWrite written

def upsert (s : Streaming) (kind : Kind) (key : String) (descriptor : Descriptor) : Streaming :=
  let (replica, written) := s.replica.upsert kind key descriptor
  let replica := if written && replica.initialized then replica.reportValid else replica
  { s with replica }.afterWrite written

def fetching (s : Streaming) (fetch : Fetch) : Streaming :=
  { s with fetches := s.fetches ++ [fetch] }

def apply (answers : Answers) (s : Streaming) : Update → Streaming
  | .put definitions => s.put definitions
  | .patch kind key descriptor => s.upsert kind key descriptor
  | .delete kind key version => s.upsert kind key (.tombstone version)
  | .fetchAll =>
      let s := s.fetching .all
      match answers.all with
      | .ok definitions => s.put definitions
      | .error failure => s.fail failure
  | .fetchItem kind key =>
      let s := s.fetching (.item kind key)
      match answers.item key kind with
      | .ok item => s.upsert kind key (.ofItem item)
      | .error failure => s.fail failure

def handle (answers : Answers) (s : Streaming) (event : EventStream.Event) : Streaming :=
  match Update.ofEvent event with
  | .ok (some update) => s.apply answers update
  | .ok none => s
  | .error failure => s.fail failure

def read (answers : Answers) (s : Streaming) : Message → Streaming
  | .event c e => if s.isCurrent c then s.handle answers e else s
  | .heartbeat _ => s
  | .closed c failure => if s.isCurrent c then s.fail (failure.getD closedByServer) else s
  | .storeStatus status =>
      if status.available && status.refreshNeeded then { s with phase := .connecting } else s
  | .stop => { s with phase := .ended }

/-- What comes from a connection that was given up counts for nothing. -/
theorem read_of_stale {answers : Answers} {s : Streaming} {message : Message} {connection : Nat}
    (origin : message.connection? = some connection) (stale : s.isCurrent connection = false) :
    s.read answers message = s := by
  cases message <;> simp_all [Message.connection?, read]

def receive (answers : Answers) (s : Streaming) (message : Message) : Streaming :=
  match s.phase with
  | .connecting => { s with inbox := s.inbox ++ [message] }
  | .connected => s.read answers message
  | .delayed => if message matches .stop then { s with phase := .ended } else s
  | .ended => s

/-- Takes the outcome of opening a connection, and then the messages that were waiting. -/
def connect (answers : Answers) (s : Streaming) (result : Except Failure Unit) : Streaming :=
  if s.phase = .connecting then
    let waiting := s.inbox
    let s := { s with inbox := [] }
    let s := match result with
      | .ok () => { s with phase := .connected, connections := s.connections + 1 }
      | .error failure => s.fail failure
    waiting.foldl (receive answers) s
  else s

def elapse (s : Streaming) : Streaming :=
  if s.phase = .delayed then { s with phase := .connecting } else s

/-- Takes note of a status of the store, which matters to a source that is not closed if the store
tells of its own health. -/
def reportStore (answers : Answers) (s : Streaming) (status : StoreStatus) : Streaming :=
  let isNews := s.replica.isNews status
  let s := { s with replica := s.replica.reportStore status }
  if isNews && s.monitored && !s.closed then s.receive answers (.storeStatus status) else s

/-- Lets connections come out the same way, so many times, as long as one is being opened. -/
def settle (answers : Answers) (result : Except Failure Unit) : Nat → Streaming → Streaming
  | 0, s => s
  | n + 1, s => if s.phase = .connecting then settle answers result n (s.connect answers result) else s

/-- Stops listening. A connection that is being opened is waited for, with the messages that came
before. The source is sent `stop` first and reports itself off then; both are one step here, though it
may end in between. -/
def close (answers : Answers) (s : Streaming) (pending : Except Failure Unit) : Streaming :=
  if s.closed then s
  else
    let s := { s with closed := true }.receive answers .stop
    let s := { s with replica := s.replica.report .off }
    settle answers pending s.inbox.length s

end Streaming

end FeatureFlags
