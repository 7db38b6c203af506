import FeatureFlags.Evaluation

/-!
Records of evaluations for analysis: one for every flag that a caller asks for and one for every
prerequisite evaluated on the way.
-/
namespace FeatureFlags

structure EvaluationEvent where
  key : String
  subject : Subject
  /-- None if there is no such flag. -/
  version : Option Nat
  variation : Option Nat
  value : Json
  /-- What the caller gets if the flag serves nothing; a prerequisite has no caller. -/
  default : Option Json
  reason : Reason
  /-- For a prerequisite, the flag that requires it. -/
  prerequisiteOf : Option String
  trackEvents : Bool
  debugEventsUntilDate : Option Int
  deriving Inhabited

namespace EvaluationEvent

def ofEvaluation (flag : Flag) (subject : Subject) (detail : Detail Json) (default : Json) :
    EvaluationEvent where
  key := flag.key
  subject
  version := some flag.version
  variation := detail.variationIndex
  value := detail.value.getD default
  default := some default
  reason := detail.reason
  prerequisiteOf := none
  trackEvents := flag.trackEvents || detail.reason.forcesTracking flag
  debugEventsUntilDate := flag.debugEventsUntilDate

def ofUnknown (key : String) (subject : Subject) (error : EvalError) (default : Json) :
    EvaluationEvent where
  key
  subject
  version := none
  variation := none
  value := default
  default := some default
  reason := .error error
  prerequisiteOf := none
  trackEvents := false
  debugEventsUntilDate := none

def ofPrerequisite (record : PrerequisiteRecord) (subject : Subject) : EvaluationEvent where
  key := record.flag.key
  subject
  version := some record.flag.version
  variation := record.detail.variationIndex
  value := record.detail.value.getD .null
  default := none
  reason := record.detail.reason
  prerequisiteOf := some record.prerequisiteOf
  trackEvents := record.flag.trackEvents || record.detail.reason.forcesTracking record.flag
  debugEventsUntilDate := record.flag.debugEventsUntilDate

def toJson (event : EvaluationEvent) : Json :=
  .ofMembers <|
    [("key", .string event.key), ("subject", event.subject.toJson),
      ("version", .ofOption (.int ·) event.version),
      ("variation", .ofOption (.int ·) event.variation), ("value", event.value),
      ("reason", event.reason.toJson), ("trackEvents", .bool event.trackEvents)] ++
    (event.default.map (("default", ·))).toList ++
    (event.prerequisiteOf.map (("prereqOf", .string ·))).toList ++
    (event.debugEventsUntilDate.map (("debugEventsUntilDate", .int ·))).toList

end EvaluationEvent

end FeatureFlags
