import FeatureFlags.Flag

/-!
Results of evaluation: a value, the variation it is, and the reason. A value that does not come from
the flag has no variation.
-/
namespace FeatureFlags

inductive EvalError where
  | clientNotReady
  | flagNotFound
  | malformedFlag
  | wrongType
  deriving DecidableEq, Inhabited

def EvalError.name : EvalError → String
  | .clientNotReady => "CLIENT_NOT_READY"
  | .flagNotFound => "FLAG_NOT_FOUND"
  | .malformedFlag => "MALFORMED_FLAG"
  | .wrongType => "WRONG_TYPE"

inductive Reason where
  | off
  | targetMatch
  | ruleMatch (index : Nat) (id : String)
  | prerequisiteFailed (key : String)
  | fallthrough
  | error (error : EvalError)
  deriving DecidableEq, Inhabited

namespace Reason

def toJson : Reason → Json
  | .off => .ofMembers [("kind", .string "OFF")]
  | .targetMatch => .ofMembers [("kind", .string "TARGET_MATCH")]
  | .ruleMatch index id =>
      .ofMembers <|
        [("kind", .string "RULE_MATCH"), ("ruleIndex", .int index)] ++
        (if id.isEmpty then [] else [("ruleId", .string id)])
  | .prerequisiteFailed key =>
      .ofMembers [("kind", .string "PREREQUISITE_FAILED"), ("prerequisiteKey", .string key)]
  | .fallthrough => .ofMembers [("kind", .string "FALLTHROUGH")]
  | .error e => .ofMembers [("kind", .string "ERROR"), ("error", .string e.name)]

/-- Whether a result for this reason is tracked whatever its flag says: the rule that matched may
ask for it. -/
def forcesTracking (reason : Reason) (flag : Flag) : Bool :=
  match reason with
  | .ruleMatch index _ => (flag.rules[index]?).any (·.trackEvents)
  | _ => false

end Reason

structure Detail (α : Type) where
  value : Option α
  variationIndex : Option Nat
  reason : Reason
  deriving DecidableEq, Inhabited

namespace Detail

variable {α β : Type}

def empty (reason : Reason) : Detail α := ⟨none, none, reason⟩

def failed (error : EvalError) : Detail α := empty (.error error)

def failedWith (error : EvalError) (default : α) : Detail α := ⟨some default, none, .error error⟩

def map (f : α → β) (detail : Detail α) : Detail β :=
  ⟨detail.value.map f, detail.variationIndex, detail.reason⟩

/-- Converts the value; a value that cannot be converted is replaced by the default and an error,
a value that is not there by the default alone. -/
def tryMap (f : α → Option β) (default : β) (error : EvalError) (detail : Detail α) : Detail β :=
  match detail.value with
  | none => ⟨some default, detail.variationIndex, detail.reason⟩
  | some value =>
      match f value with
      | some value => ⟨some value, detail.variationIndex, detail.reason⟩
      | none => failedWith error default

/-- Puts the default in place of a value that is not there. -/
def or (detail : Detail α) (default : α) : Detail α :=
  match detail.value with
  | none => ⟨some default, none, detail.reason⟩
  | some _ => detail

end Detail

namespace Json

def bool? : Json → Option Bool
  | .bool value => some value
  | _ => none

def string? : Json → Option String
  | .string text => some text
  | _ => none

/-- An integer of 64 signed bits; a double is none. -/
def int64? : Json → Option Int
  | .int n => if n ≤ Binary64.maxInt64 then some n else none
  | _ => none

def float? : Json → Option Float
  | .int n => some (Float.ofInt n)
  | .float x => some x
  | _ => none

end Json

end FeatureFlags
