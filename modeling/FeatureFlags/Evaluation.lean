import FeatureFlags.Bucketing
import FeatureFlags.Condition
import FeatureFlags.Dataset
import FeatureFlags.Detail

/-!
Evaluation of flags. Flags require flags and segments refer to segments, in circles if they like. The
keys that are open on the way to a flag or a segment are kept, and a key that is open is not followed
again: a segment that is open has no members, and a prerequisite that is open fails together with
every prerequisite around it. A flag is open under the key it gives itself, and it is looked for under
the key it is stored under, so evaluation may go on for ever where the two differ. Each step therefore
has a depth, and the answer is missing if the depth does not suffice.
-/
namespace FeatureFlags

/-- Finds flags and segments that are not deleted. -/
structure Catalog where
  flag? : String → Option Flag
  segment? : String → Option Segment

structure PrerequisiteRecord where
  flag : Flag
  prerequisiteOf : String
  detail : Detail Json
  deriving Inhabited

/-- What is open, what was found so far and what was hashed for it. -/
structure Trail where
  openFlags : List String := []
  openSegments : List String := []
  /-- Set once a prerequisite is found open. -/
  cycle : Bool := false
  records : List PrerequisiteRecord := []
  hashed : List String := []
  deriving Inhabited

/-- A step of evaluation; no answer means that the depth did not suffice. -/
abbrev Evaluation := StateT Trail Option

/-- What stays the same throughout an evaluation. -/
structure Setting where
  catalog : Catalog
  subject : Subject
  bucketer : Bucketer
  /-- Whether prerequisites are recorded. -/
  recording : Bool := true

namespace Setting

/-- The bucket of the subject; without a text to hash it is the first. -/
def bucket (setting : Setting) (key salt : String) (bucketBy : Option String) :
    Evaluation Float := do
  match setting.subject.bucketText? key salt bucketBy with
  | none => return 0.0
  | some text =>
      modify fun trail => { trail with hashed := trail.hashed ++ [text] }
      return setting.bucketer text

end Setting

namespace Clause

def applies (setting : Setting) (member : Segment → Evaluation Bool) (clause : Clause) :
    Evaluation Bool := do
  match clause.op with
  | .segmentMatch =>
      let found ← clause.values.anyM fun value =>
        match value.string?.bind setting.catalog.segment? with
        | some segment => member segment
        | none => return false
      return found != clause.negate
  | _ => return clause.describes setting.subject

end Clause

namespace Segment

def Rule.applies (setting : Setting) (member : Segment → Evaluation Bool) (segment : Segment)
    (rule : Segment.Rule) : Evaluation Bool := do
  if ← rule.clauses.allM (Clause.applies setting member) then
    match rule.weight with
    | none => return true
    | some weight =>
        let bucket ← setting.bucket segment.key segment.salt rule.bucketBy
        return Rule.admits bucket weight
  else return false

/-- Whether the subject is a member. Included keys come before excluded keys, and these before
rules. -/
def contains (setting : Setting) : Nat → Segment → Evaluation Bool
  | 0, _ => StateT.lift none
  | depth + 1, segment => do
      if segment.included.contains setting.subject.key then return true
      else if segment.excluded.contains setting.subject.key then return false
      else if (← get).openSegments.contains segment.key then return false
      else
        modify fun trail => { trail with openSegments := segment.key :: trail.openSegments }
        let found ← segment.rules.anyM (Rule.applies setting (contains setting depth) segment)
        modify fun trail => { trail with openSegments := trail.openSegments.erase segment.key }
        return found

end Segment

namespace Flag

/-- Serves a variation; a flag without it is malformed. -/
def serveVariation (flag : Flag) (index : Nat) (reason : Reason) : Detail Json :=
  match flag.variations[index]? with
  | some value => ⟨some value, some index, reason⟩
  | none => .failed .malformedFlag

def serveOff (flag : Flag) (reason : Reason) : Detail Json :=
  match flag.offVariation with
  | some index => flag.serveVariation index reason
  | none => .empty reason

def choose (setting : Setting) (flag : Flag) : Choice → Evaluation (Option Nat)
  | .variation index => return some index
  | .rollout shares => do
      let bucket ← setting.bucket flag.key flag.salt shares.bucketBy
      return shares.pick bucket
  | .malformed _ => return none

def serve (setting : Setting) (flag : Flag) (choice : Choice) (reason : Reason) :
    Evaluation (Detail Json) := do
  match ← flag.choose setting choice with
  | some index => return flag.serveVariation index reason
  | none => return .failed .malformedFlag

def targetFor? (flag : Flag) (key : String) : Option Target :=
  flag.targets.find? (·.values.contains key)

def prerequisiteMet (setting : Setting) (evaluate : Flag → Evaluation (Detail Json)) (flag : Flag)
    (required : Prerequisite) : Evaluation Bool := do
  if (← get).openFlags.contains required.key then
    modify fun trail => { trail with cycle := true }
    return false
  else
    match setting.catalog.flag? required.key with
    | none => return false
    | some other =>
        let detail ← evaluate other
        let met := !(← get).cycle && detail.variationIndex == some required.variation
        if setting.recording then
          modify fun trail =>
            { trail with records := trail.records ++ [⟨other, flag.key, detail⟩] }
        return met

def failedPrerequisite (setting : Setting) (evaluate : Flag → Evaluation (Detail Json))
    (flag : Flag) : Evaluation (Option Prerequisite) := do
  if flag.prerequisites.isEmpty then return none
  else
    modify fun trail => { trail with openFlags := trail.openFlags.insert flag.key }
    let failed ← flag.prerequisites.findM? fun required =>
      return !(← prerequisiteMet setting evaluate flag required)
    modify fun trail => { trail with openFlags := trail.openFlags.erase flag.key }
    return failed

def matchingRule (setting : Setting) (member : Segment → Evaluation Bool) (flag : Flag) :
    Evaluation (Option (Flag.Rule × Nat)) :=
  flag.rules.zipIdx.findM? fun rule => rule.1.clauses.allM (Clause.applies setting member)

def evaluate (setting : Setting) : Nat → Flag → Evaluation (Detail Json)
  | 0, _ => StateT.lift none
  | depth + 1, flag => do
      if !flag.on then return flag.serveOff .off
      else
        match ← flag.failedPrerequisite setting (evaluate setting depth) with
        | some required => return flag.serveOff (.prerequisiteFailed required.key)
        | none =>
            match flag.targetFor? setting.subject.key with
            | some target => return flag.serveVariation target.variation .targetMatch
            | none =>
                match ← flag.matchingRule setting (Segment.contains setting depth) with
                | some (rule, index) => flag.serve setting rule.serve (.ruleMatch index rule.id)
                | none => flag.serve setting flag.fallthrough .fallthrough

end Flag

structure Outcome where
  detail : Detail Json
  records : List PrerequisiteRecord
  hashed : List String
  deriving Inhabited

namespace Setting

def outcome? (setting : Setting) (depth : Nat) (flag : Flag) : Option Outcome :=
  (flag.evaluate setting depth {}).map fun (detail, trail) => ⟨detail, trail.records, trail.hashed⟩

end Setting

namespace Dataset

def catalog (data : Dataset) : Catalog := ⟨data.flag?, data.segment?⟩

/-- A flag that is evaluated inside itself with the same keys open is so for ever. There are fewer
ways to be open than this, for a flag and for the segments below it. -/
def depth (data : Dataset) : Nat :=
  ((2 * (data.flags.size + 1)) <<< (data.flags.size + 1)) + data.segments.size + 1

def evaluate? (data : Dataset) (bucketer : Bucketer) (subject : Subject) (flag : Flag)
    (recording : Bool := true) : Option Outcome :=
  Setting.outcome? ⟨data.catalog, subject, bucketer, recording⟩ data.depth flag

end Dataset

end FeatureFlags
