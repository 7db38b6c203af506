import FeatureFlags.Failure
import FeatureFlags.Json.Reader
import FeatureFlags.Json.Record
import FeatureFlags.Url.Parser

/-!
Requests to the service and its responses. A body is a text here where it is bytes on the wire, so
bodies that are not UTF-8 are left out.
-/
namespace FeatureFlags.Http

structure Request where
  url : Url
  authorization : String
  accept : String := "*/*"
  /-- The entity tag of what is already known. -/
  ifNoneMatch : Option String := none
  deriving DecidableEq, Inhabited

namespace Request

def method : String := "GET"

def userAgent : String := "flagsync/0.1.0"

/-- Characters that stand in names of hosts, but in no request. -/
def isUnsendable (c : Char) : Bool := Url.isOneOf "\"`\x7b\x7d" c

def isSendable (request : Request) : Bool :=
  (request.url.scheme == "http" || request.url.scheme == "https") &&
    match request.url.host with
    | some (.name name) => !name.toList.any isUnsendable
    | some _ => true
    | none => false

end Request

def isHeaderValue (text : String) : Bool :=
  text.toList.all fun c => c == '\t' || (32 ≤ c.toNat && c.toNat != 127)

structure Response where
  status : Nat
  entityTag : Option String := none
  /-- None if the connection ended before the body did. -/
  body : Option String := some ""
  deriving DecidableEq, Inhabited

/-- What comes back for a request; none if the service is not reached or does not answer. -/
abbrev Reply := Option Response

def unreachable : Failure := .network "no response"

def interrupted : Failure := .network "incomplete response"

def undecodable : Failure := .invalidData "undecodable body"

def isSuccess (status : Nat) : Bool := 200 ≤ status && status < 300

/-- The response that a reply is, unless it is one of failure. -/
def successOf (reply : Reply) : Except Failure Response :=
  match reply with
  | none => .error unreachable
  | some response =>
      if isSuccess response.status then .ok response else .error (.httpStatus response.status)

def Response.read (response : Response) (decoder : Decoder α) : Except Failure α :=
  match response.body with
  | none => .error interrupted
  | some text =>
      match (Document.read? text).bind decoder.run? with
      | some value => .ok value
      | none => .error undecodable

end FeatureFlags.Http
