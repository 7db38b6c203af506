import FeatureFlags.Clause

/-!
Segments: named sets of subjects.
-/
namespace FeatureFlags

/-- Takes in subjects that match all clauses, or the share `weight` of them. -/
structure Segment.Rule where
  id : String := ""
  clauses : List Clause := []
  /-- In thousandths of a percent. -/
  weight : Option Nat := none
  bucketBy : Option String := none
  deriving Inhabited

def Segment.Rule.decoder : Decoder Segment.Rule := fun room document => do
  let members ← Members.read? ["id", "clauses", "weight", "bucketBy"] room document
  return {
    id := ← members.defaulted "id" "" .string
    clauses := ← members.defaulted "clauses" [] (.list Clause.decoder)
    weight := ← members.optional "weight" .word32
    bucketBy := ← members.optional "bucketBy" .string }

structure Segment where
  key : String
  version : Nat := 0
  included : List String := []
  excluded : List String := []
  salt : String := ""
  rules : List Segment.Rule := []
  deleted : Bool := false
  deriving Inhabited

namespace Segment

def memberNames : List String :=
  ["key", "version", "included", "excluded", "salt", "rules", "deleted"]

def decoder : Decoder Segment := fun room document => do
  let members ← Members.read? memberNames room document
  return {
    key := ← members.required "key" .string
    version := ← members.defaulted "version" 0 .word64
    included := ← members.defaulted "included" [] (.list .string)
    excluded := ← members.defaulted "excluded" [] (.list .string)
    salt := ← members.defaulted "salt" "" .string
    rules := ← members.defaulted "rules" [] (.list Segment.Rule.decoder)
    deleted := ← members.defaulted "deleted" false .bool }

end Segment

end FeatureFlags
