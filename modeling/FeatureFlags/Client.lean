import FeatureFlags.Config
import FeatureFlags.EvaluationEvent
import FeatureFlags.FlagsState
import FeatureFlags.Source.Polling
import FeatureFlags.Source.Streaming

/-!
A client: it evaluates flags with what its data source has stored, and with what was stored before
once the source is closed. The store and its history are the same for all sources of a client. A caller
always gets a value, and every evaluation for a caller is recorded. Where an answer may be missing, it is
because the evaluation comes to no end.
-/
namespace FeatureFlags

namespace Client

inductive Source where
  | polling (p : Polling)
  /-- The connection of a stream is opened with a request. -/
  | streaming (s : Streaming) (opening : Http.Request)
  deriving Inhabited

def Source.replica : Source → Replica
  | .polling p => p.replica
  | .streaming s _ => s.replica

structure Running where
  service : Service
  source : Source
  deriving Inhabited

namespace Running

def start (config : Config) (replica : Replica) : Except Failure Running := do
  config.validate
  let service ← Service.ofAddress config.baseUri config.sdkKey (!config.streaming)
  if config.streaming then
    let opening ← Service.streamRequest config.streamUri config.sdkKey
    return { service, source := .streaming { replica } opening }
  else
    return { service, source := .polling { replica } }

def poll (send : Http.Request → Http.Reply) (r : Running) : Running :=
  match r.source with
  | .polling p =>
      if p.phase = .fetching then
        let (service, answer) := r.service.fetchAll send
        { service, source := .polling (p.respond answer) }
      else r
  | .streaming _ _ => r

def streaming (r : Running) (f : Streaming → Streaming) : Running :=
  match r.source with
  | .polling _ => r
  | .streaming s opening => { r with source := .streaming (f s) opening }

def opening? (r : Running) : Option Http.Request :=
  match r.source with
  | .streaming s opening => if s.phase = .connecting then some opening else none
  | .polling _ => none

def connect (send : Http.Request → Http.Reply) (r : Running) (reply : Http.Reply) : Running :=
  r.streaming (·.connect (r.service.answers send) ((Http.successOf reply).map fun _ => ()))

def receive (send : Http.Request → Http.Reply) (r : Running) (message : Streaming.Message) :
    Running :=
  r.streaming (·.receive (r.service.answers send) message)

def elapse (r : Running) : Running :=
  match r.source with
  | .polling p => { r with source := .polling p.elapse }
  | .streaming s opening => { r with source := .streaming s.elapse opening }

def close (send : Http.Request → Http.Reply) (r : Running) : Replica :=
  match r.source with
  | .polling p => (p.close (r.service.fetchAll send).2).replica
  | .streaming s opening =>
      let pending := (Http.successOf (send opening)).map fun _ => ()
      (s.close (r.service.answers send) pending).replica

end Running

end Client

structure Client where
  config : Config
  /-- What it holds while no data source is running. -/
  held : Replica := {}
  running : Option Client.Running := none
  /-- The evaluations recorded. -/
  events : List EvaluationEvent := []
  deriving Inhabited

namespace Client

def replica (client : Client) : Replica :=
  match client.running with
  | some r => r.source.replica
  | none => client.held

def store (client : Client) : Store := client.replica.store

/-- Starts a data source unless one is running. -/
def start (client : Client) : Client × Except Failure Unit :=
  match client.running with
  | some _ => (client, .ok ())
  | none =>
      match Running.start client.config client.held.restarted with
      | .ok r => ({ client with running := some r }, .ok ())
      | .error failure => (client, .error failure)

def run (client : Client) (f : Running → Running) : Client :=
  { client with running := client.running.map f }

/-- How the start of the data source came out, if one is running and that is known. -/
def startup? (client : Client) : Option (Except Failure Unit) :=
  client.running.bind (·.source.replica.startup)

def close (send : Http.Request → Http.Reply) (client : Client) : Client :=
  match client.running with
  | some r => { client with held := r.close send, running := none }
  | none => client

def record (client : Client) (events : List EvaluationEvent) : Client :=
  { client with events := client.events ++ events }

/-- What a caller gets for a flag that cannot be looked up. -/
def unknown (client : Client) (key : String) (subject : Subject) (error : EvalError)
    (default : Json) : Client × Detail Json :=
  (client.record [.ofUnknown key subject error default], .failedWith error default)

def variationDetail? (client : Client) (key : String) (subject : Subject) (default : Json) :
    Option (Client × Detail Json) :=
  if client.store.initialized then
    let data := client.store.snapshot
    match data.flag? key with
    | none => some (client.unknown key subject .flagNotFound default)
    | some flag =>
        (data.evaluate? Murmur3.bucketer subject flag).map fun outcome =>
          let events := outcome.records.map (.ofPrerequisite · subject) ++
            [.ofEvaluation flag subject outcome.detail default]
          (client.record events, outcome.detail.or default)
  else some (client.unknown key subject .clientNotReady default)

def variation? (client : Client) (key : String) (subject : Subject) (default : Json) :
    Option (Client × Json) :=
  (client.variationDetail? key subject default).map fun (client, detail) =>
    (client, detail.value.getD default)

/-- Evaluates a flag whose value is to be of some type; of another type it is not taken. -/
def typedVariation? (client : Client) (read : Json → Option α) (write : α → Json) (key : String)
    (subject : Subject) (default : α) : Option (Client × α) :=
  (client.variationDetail? key subject (write default)).map fun (client, detail) =>
    (client, (detail.tryMap read default .wrongType).value.getD default)

def boolVariation? (client : Client) : String → Subject → Bool → Option (Client × Bool) :=
  client.typedVariation? Json.bool? .bool

def stringVariation? (client : Client) : String → Subject → String → Option (Client × String) :=
  client.typedVariation? Json.string? .string

def intVariation? (client : Client) : String → Subject → Int → Option (Client × Int) :=
  client.typedVariation? Json.int64? .int

def floatVariation? (client : Client) : String → Subject → Float → Option (Client × Float) :=
  client.typedVariation? Json.float? Json.ofFloat

def flagsState? (client : Client) (subject : Subject) (withReasons : Bool) : Option FlagsState :=
  let data := client.store.snapshot
  let add (state : FlagsState) (flag : Flag) : Option FlagsState :=
    (data.evaluate? Murmur3.bucketer subject flag false).map fun outcome =>
      state.add withReasons flag outcome.detail
  if client.store.initialized then
    ((data.items .flags).toList.filterMap (·.2.flag?)).foldlM add {}
  else some { valid := false }

end Client

end FeatureFlags
