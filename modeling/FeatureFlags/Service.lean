import FeatureFlags.Fetch
import FeatureFlags.Http

/-!
Access to the service: the addresses of what it offers, and what its replies come to. If it is kept,
the last dataset that came with an entity tag need not be sent again.
-/
namespace FeatureFlags

structure Service where
  base : Url
  sdkKey : String
  /-- Whether the last dataset is kept. -/
  keeping : Bool := false
  kept : Option (String × Definitions) := none
  deriving Inhabited

namespace Service

def invalidKey : Failure := .invalidData "SDK key is not a valid header value"

def checkKey (sdkKey : String) : Except Failure Unit :=
  if Http.isHeaderValue sdkKey then .ok () else .error invalidKey

def parseUrl (text : String) : Except Failure Url :=
  match Url.parse? text with
  | some url => .ok url
  | none => .error .invalidUri

def dropSlashes (text : String) : String :=
  String.ofList (text.toList.reverse.dropWhile (· == '/')).reverse

def ofAddress (address sdkKey : String) (keeping : Bool) : Except Failure Service := do
  let base ← parseUrl address
  checkKey sdkKey
  return { base, sdkKey, keeping }

def path : Fetch → String
  | .all => "/sdk/latest-all"
  | .item .flags _ => "/sdk/latest-flags"
  | .item .segments _ => "/sdk/latest-segments"

/-- The address of what is fetched. The key of an item is the last part of its path. -/
def url (service : Service) (fetch : Fetch) : Except Failure Url := do
  let url ← parseUrl (dropSlashes service.base.toText ++ path fetch)
  match fetch with
  | .all => return url
  | .item _ key =>
      match url.push? key with
      | some url => return url
      | none => throw .invalidUri

def request (service : Service) (fetch : Fetch) : Except Failure Http.Request := do
  let url ← service.url fetch
  return {
    url
    authorization := service.sdkKey
    ifNoneMatch := if fetch = .all ∧ service.keeping then service.kept.map (·.1) else none }

/-- The dataset that a reply stands for, if it says that nothing has changed. -/
def unchanged? (service : Service) (reply : Http.Reply) : Option Definitions :=
  if service.keeping ∧ reply.any (·.status == 304) then service.kept.map (·.2) else none

def receiveAll (service : Service) (reply : Http.Reply) : Service × Except Failure Definitions :=
  match service.unchanged? reply with
  | some definitions => (service, .ok definitions)
  | none =>
      match Http.successOf reply with
      | .error failure => (service, .error failure)
      | .ok response =>
          match response.read Definitions.decoder with
          | .error failure => (service, .error failure)
          | .ok definitions =>
              let kept := response.entityTag.map (·, definitions)
              (if service.keeping then { service with kept } else service, .ok definitions)

def receiveItem (decoder : Decoder α) (reply : Http.Reply) : Except Failure α := do
  (← Http.successOf reply).read decoder

def fetchAll (send : Http.Request → Http.Reply) (service : Service) :
    Service × Except Failure Definitions :=
  match service.request .all with
  | .error failure => (service, .error failure)
  | .ok request => service.receiveAll (send request)

def fetchItem (send : Http.Request → Http.Reply) (service : Service) (kind : Kind)
    (decoder : Decoder α) (key : String) : Except Failure α := do
  let request ← service.request (.item kind key)
  receiveItem decoder (send request)

def answers (send : Http.Request → Http.Reply) (service : Service) : Answers where
  all := (service.fetchAll send).2
  flag := service.fetchItem send .flags Flag.decoder
  segment := service.fetchItem send .segments Segment.decoder

def streamRequest (address sdkKey : String) : Except Failure Http.Request := do
  let url ← parseUrl (dropSlashes address ++ "/all")
  checkKey sdkKey
  return { url, authorization := sdkKey, accept := "text/event-stream" }

end Service

end FeatureFlags
