import FeatureFlags.Clause
import FeatureFlags.Regex.Parser
import FeatureFlags.Subject

/-!
What clauses say of a subject's attributes. An operator that does not apply to its values does not
hold, and only then a clause is negated; but a subject without the attribute matches no clause,
negated or not.
-/
namespace FeatureFlags

namespace Operator

def compareStrings (holds : List Char → List Char → Bool) (actual value : Attribute) : Bool :=
  match actual.string?, value.string? with
  | some a, some b => holds a.toList b.toList
  | _, _ => false

def compareNumbers (holds : Float → Float → Bool) (actual value : Attribute) : Bool :=
  match actual.number?, value.number? with
  | some a, some b => holds a b
  | _, _ => false

def compareTimes (holds : Timestamp → Timestamp → Bool) (actual value : Attribute) : Bool :=
  match actual.timestamp?, value.timestamp? with
  | some a, some b => holds a b
  | _, _ => false

def compareVersions (holds : SemVer → SemVer → Bool) (actual value : Attribute) : Bool :=
  match actual.semVer?, value.semVer? with
  | some a, some b => holds a b
  | _, _ => false

def occursIn (part : List Char) : List Char → Bool
  | [] => part.isEmpty
  | c :: rest => part.isPrefixOf (c :: rest) || occursIn part rest

def holds : Operator → Attribute → Attribute → Bool
  | .in => Attribute.same
  | .startsWith => compareStrings fun a b => b.isPrefixOf a
  | .endsWith => compareStrings fun a b => b.isSuffixOf a
  | .contains => compareStrings fun a b => occursIn b a
  | .matches => fun actual value =>
      match actual.string?, value.string? with
      | some text, some pattern => Regex.isMatch pattern text
      | _, _ => false
  | .lessThan => compareNumbers fun a b => a < b
  | .lessThanOrEqual => compareNumbers fun a b => a ≤ b
  | .greaterThan => compareNumbers fun a b => b < a
  | .greaterThanOrEqual => compareNumbers fun a b => b ≤ a
  | .before => compareTimes fun a b => a.before b
  | .after => compareTimes fun a b => b.before a
  | .semVerEqual => compareVersions fun a b => a == b
  | .semVerLessThan => compareVersions fun a b => a.compare b == .lt
  | .semVerGreaterThan => compareVersions fun a b => a.compare b == .gt
  | .segmentMatch => fun _ _ => false
  | .unknown => fun _ _ => false

end Operator

namespace Clause

def accepts (clause : Clause) (actual : Attribute) : Bool :=
  clause.values.any (clause.op.holds actual)

/-- Of an array one element that is accepted is enough. -/
def acceptsAny (clause : Clause) : Attribute → Bool
  | .array items => items.any clause.accepts
  | actual => clause.accepts actual

def describes (clause : Clause) (subject : Subject) : Bool :=
  match subject.value? clause.attributeName with
  | none => false
  | some .null => false
  | some actual => clause.acceptsAny actual != clause.negate

end Clause

end FeatureFlags
