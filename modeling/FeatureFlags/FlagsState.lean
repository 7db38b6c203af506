import FeatureFlags.Evaluation

/-!
The values of all flags for a subject, with what else is to be known of each. Both are written into
one object, where the members that are not values have names of their own.
-/
namespace FeatureFlags

structure FlagMetadata where
  variation : Option Nat
  version : Nat
  /-- None unless reasons were asked for. -/
  reason : Option Reason
  trackEvents : Bool
  debugEventsUntilDate : Option Int
  deriving DecidableEq, Inhabited

def FlagMetadata.toJson (metadata : FlagMetadata) : Json :=
  .ofMembers <|
    (metadata.variation.map (("variation", .int ·))).toList ++
    [("version", .int metadata.version)] ++
    (metadata.reason.map (("reason", ·.toJson))).toList ++
    (if metadata.trackEvents then [("trackEvents", .bool true)] else []) ++
    (metadata.debugEventsUntilDate.map (("debugEventsUntilDate", .int ·))).toList

structure FlagsState where
  values : Keyed Json := ∅
  metadata : Keyed FlagMetadata := ∅
  /-- Whether the state could be told. -/
  valid : Bool := true
  deriving Inhabited

namespace FlagsState

def add (state : FlagsState) (withReasons : Bool) (flag : Flag) (detail : Detail Json) :
    FlagsState :=
  { state with
    values := state.values.insert flag.key (detail.value.getD .null)
    metadata := state.metadata.insert flag.key {
      variation := detail.variationIndex
      version := flag.version
      reason := if withReasons then some detail.reason else none
      trackEvents := flag.trackEvents || detail.reason.forcesTracking flag
      debugEventsUntilDate := flag.debugEventsUntilDate } }

/-- The state as a value, in which a flag whose key is the name of another member is not seen. A text
written straight from the state would hold both members of that name. -/
def toJson (state : FlagsState) : Json :=
  .ofMembers <| state.values.toList ++
    [("$flagsState", .ofMembers (state.metadata.map FlagMetadata.toJson).toList),
      ("$valid", .bool state.valid)]

end FlagsState

end FeatureFlags
