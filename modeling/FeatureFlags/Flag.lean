import FeatureFlags.Clause

/-!
Flags: what they serve and to whom. A choice that is neither a variation nor a rollout is kept as it
was written, so that it does not keep the rest of its flag from being read.
-/
namespace FeatureFlags

structure WeightedVariation where
  variation : Nat
  /-- In thousandths of a percent. -/
  weight : Nat
  deriving DecidableEq, Inhabited

namespace WeightedVariation

def decoder : Decoder WeightedVariation := fun room document => do
  let members ← Members.read? ["variation", "weight"] room document
  return {
    variation := ← members.required "variation" .word64
    weight := ← members.required "weight" .word32 }

end WeightedVariation

structure Rollout where
  variations : List WeightedVariation
  bucketBy : Option String := none
  deriving DecidableEq, Inhabited

namespace Rollout

def decoder : Decoder Rollout := fun room document => do
  let members ← Members.read? ["variations", "bucketBy"] room document
  return {
    variations := ← members.required "variations" (.list WeightedVariation.decoder)
    bucketBy := ← members.optional "bucketBy" .string }

end Rollout

/-- What is served: a variation, shares of variations, or something that cannot be understood. -/
inductive Choice where
  | variation (index : Nat)
  | rollout (shares : Rollout)
  | malformed (written : Json)
  deriving DecidableEq, Inhabited

namespace Choice

/-- A member that is read only from an object, and only if it stands there once. -/
def member? (name : String) (decoder : Decoder α) (room : Nat) (document : Document) : Option α := do
  let members ← (← Members.ofObject? room document).known? [name]
  members.required name decoder

/-- A variation comes before a rollout; any other value is malformed. -/
def decoder : Decoder Choice := fun room document => do
  let written ← document.toJson? room
  match member? "variation" .word64 room document with
  | some index => return .variation index
  | none =>
      match member? "rollout" Rollout.decoder room document with
      | some shares => return .rollout shares
      | none => return .malformed written

end Choice

/-- A flag that has to serve `variation`. -/
structure Prerequisite where
  key : String
  variation : Nat
  deriving DecidableEq, Inhabited

def Prerequisite.decoder : Decoder Prerequisite := fun room document => do
  let members ← Members.read? ["key", "variation"] room document
  return {
    key := ← members.required "key" .string
    variation := ← members.required "variation" .word64 }

/-- Keys of subjects that are served `variation`. -/
structure Target where
  values : List String
  variation : Nat
  deriving DecidableEq, Inhabited

def Target.decoder : Decoder Target := fun room document => do
  let members ← Members.read? ["values", "variation"] room document
  return {
    values := ← members.defaulted "values" [] (.list .string)
    variation := ← members.required "variation" .word64 }

/-- Serves its choice to subjects that match all clauses. -/
structure Flag.Rule where
  id : String := ""
  clauses : List Clause := []
  serve : Choice
  trackEvents : Bool := false
  deriving Inhabited

namespace Flag.Rule

def memberNames : List String := ["id", "clauses", "trackEvents"]

/-- A rule is an object; the members that are not its own make up its choice. -/
def decoder : Decoder Flag.Rule := fun room document => do
  let all ← Members.ofObject? room document
  let members ← all.known? memberNames
  let others := all.given.filter (!memberNames.contains ·.1)
  return {
    id := ← members.defaulted "id" "" .string
    clauses := ← members.defaulted "clauses" [] (.list Clause.decoder)
    serve := ← Choice.decoder room (.object (others.map fun (name, value) => (some name, value)))
    trackEvents := ← members.defaulted "trackEvents" false .bool }

end Flag.Rule

structure Flag where
  key : String
  version : Nat := 0
  on : Bool := false
  prerequisites : List Prerequisite := []
  salt : String := ""
  targets : List Target := []
  rules : List Flag.Rule := []
  fallthrough : Choice := .malformed .null
  offVariation : Option Nat := none
  variations : List Json := []
  trackEvents : Bool := false
  /-- In milliseconds since the start of 1970. -/
  debugEventsUntilDate : Option Int := none
  deleted : Bool := false
  deriving Inhabited

namespace Flag

def memberNames : List String :=
  ["key", "version", "on", "prerequisites", "salt", "targets", "rules", "fallthrough",
    "offVariation", "variations", "trackEvents", "debugEventsUntilDate", "deleted"]

def decoder : Decoder Flag := fun room document => do
  let members ← Members.read? memberNames room document
  return {
    key := ← members.required "key" .string
    version := ← members.defaulted "version" 0 .word64
    on := ← members.defaulted "on" false .bool
    prerequisites := ← members.defaulted "prerequisites" [] (.list Prerequisite.decoder)
    salt := ← members.defaulted "salt" "" .string
    targets := ← members.defaulted "targets" [] (.list Target.decoder)
    rules := ← members.defaulted "rules" [] (.list Flag.Rule.decoder)
    fallthrough := ← members.defaulted "fallthrough" (.malformed .null) Choice.decoder
    offVariation := ← members.optional "offVariation" .word64
    variations := ← members.defaulted "variations" [] (.list .json)
    trackEvents := ← members.defaulted "trackEvents" false .bool
    debugEventsUntilDate := ← members.optional "debugEventsUntilDate" .int64
    deleted := ← members.defaulted "deleted" false .bool }

def isDebugging (flag : Flag) (now : Timestamp) : Bool :=
  match flag.debugEventsUntilDate with
  | some date => now.millis < date
  | none => false

end Flag

end FeatureFlags
