import FeatureFlags.Url.Host

/-!
URLs and their written form. The parts are kept as they are written, percent-encoded where they have to
be. A path is a list of segments, or for some schemes one text that has no segments.
-/
namespace FeatureFlags

inductive Url.Path where
  | text (text : String)
  | segments (segments : List String)
  deriving DecidableEq, Inhabited

structure Url where
  scheme : String
  username : String := ""
  password : String := ""
  host : Option Url.Host := none
  port : Option Nat := none
  path : Url.Path
  query : Option String := none
  fragment : Option String := none
  deriving DecidableEq, Inhabited

namespace Url

def specialPorts : List (String × Nat) :=
  [("http", 80), ("https", 443), ("ws", 80), ("wss", 443), ("ftp", 21)]

def defaultPort? (scheme : String) : Option Nat := specialPorts.lookup scheme

def isSpecial (scheme : String) : Bool := scheme == "file" || (defaultPort? scheme).isSome

def leadingZeros (pieces : List Nat) : Nat := (pieces.takeWhile (· == 0)).length

/-- The first of the longest runs of zeros, by where it begins and how long it is. -/
def longestGap : Nat → List Nat → Nat × Nat
  | _, [] => (0, 0)
  | i, piece :: rest =>
      let here := (i, leadingZeros (piece :: rest))
      let later := longestGap (i + 1) rest
      if later.2 > here.2 then later else here

def pieceText (n : Nat) : String := String.ofList (Nat.toDigits 16 n)

def joinPieces (pieces : List Nat) : String := ":".intercalate (pieces.map pieceText)

def Host.toText : Host → String
  | .name t => t
  | .ipv4 n => ".".intercalate ([n >>> 24, (n >>> 16) % 256, (n >>> 8) % 256, n % 256].map toString)
  | .ipv6 ps =>
      let (start, length) := longestGap 0 ps
      if length < 2 then "[" ++ joinPieces ps ++ "]"
      else "[" ++ joinPieces (ps.take start) ++ "::" ++ joinPieces (ps.drop (start + length)) ++ "]"

def Path.toText : Path → String
  | .text t => t
  | .segments parts => String.join (parts.map ("/" ++ ·))

def user (url : Url) : String :=
  if url.username = "" ∧ url.password = "" then ""
  else if url.password = "" then url.username ++ "@"
  else url.username ++ ":" ++ url.password ++ "@"

/-- What stands before the path. Without a host, a path must not look as if there were one. -/
def authority (url : Url) : String :=
  match url.host, url.path with
  | some host, _ =>
      "//" ++ url.user ++ host.toText ++ ((url.port.map fun n => ":" ++ toString n).getD "")
  | none, .segments ("" :: _ :: _) => if url.scheme = "file" then "//" else "/."
  | none, _ => if url.scheme = "file" then "//" else ""

def target (url : Url) : String :=
  url.path.toText ++ ((url.query.map ("?" ++ ·)).getD "")

def toText (url : Url) : String :=
  url.scheme ++ ":" ++ url.authority ++ url.target ++ ((url.fragment.map ("#" ++ ·)).getD "")

def isSingleDot (segment : String) : Bool := segment ∈ [".", "%2e", "%2E"]

def isDoubleDot (segment : String) : Bool :=
  segment ∈ ["..", ".%2e", ".%2E", "%2e.", "%2E.", "%2e%2e", "%2e%2E", "%2E%2e", "%2E%2E"]

/-- Goes on to a segment, which may also be the same or the one above. -/
def goTo (segments : List String) (segment : String) (isLast : Bool) : List String :=
  let here := if isLast then [""] else []
  if isDoubleDot segment then segments.dropLast ++ here
  else if isSingleDot segment then segments ++ here
  else segments ++ [segment]

/-- Characters that do not count in a URL. -/
def isIgnored (c : Char) : Bool := c == '\t' || c == '\n' || c == '\r'

/-- Adds a segment that says the given text. A dot or two add nothing; an empty path is filled. -/
def push? (url : Url) (text : String) : Option Url :=
  match url.path with
  | .text _ => none
  | .segments parts =>
      if text = "." ∨ text = ".." then some url
      else
        let set := if isSpecial url.scheme then inSpecialSegmentSet else inSegmentSet
        let segment := String.ofList (percentEncode set (text.toList.filter (!isIgnored ·)))
        let parts := if parts = [""] then [] else parts
        some { url with path := .segments (goTo parts segment true) }

end Url

end FeatureFlags
