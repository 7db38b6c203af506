import FeatureFlags.Attribute

/-!
Clauses: single conditions of rules. A clause compares an attribute with the listed values by its
operator; operators of unknown names are read as `unknown`.
-/
namespace FeatureFlags

inductive Operator where
  | in
  | startsWith
  | endsWith
  | contains
  | matches
  | lessThan
  | lessThanOrEqual
  | greaterThan
  | greaterThanOrEqual
  | before
  | after
  | semVerEqual
  | semVerLessThan
  | semVerGreaterThan
  | segmentMatch
  | unknown
  deriving DecidableEq, Inhabited

namespace Operator

def named : List (String × Operator) :=
  [("in", .in), ("startsWith", .startsWith), ("endsWith", .endsWith), ("contains", .contains),
    ("matches", .matches), ("lessThan", .lessThan), ("lessThanOrEqual", .lessThanOrEqual),
    ("greaterThan", .greaterThan), ("greaterThanOrEqual", .greaterThanOrEqual),
    ("before", .before), ("after", .after), ("semVerEqual", .semVerEqual),
    ("semVerLessThan", .semVerLessThan), ("semVerGreaterThan", .semVerGreaterThan),
    ("segmentMatch", .segmentMatch)]

def ofName (name : String) : Operator := (named.lookup name).getD .unknown

def name (op : Operator) : String := ((named.find? (·.2 == op)).map (·.1)).getD "unknown"

def decoder : Decoder Operator
  | _, .string name => name.map ofName
  | _ + 1, .object [(name, .null)] => name.map ofName
  | _, _ => none

end Operator

structure Clause where
  attributeName : String := ""
  op : Operator
  values : List Attribute := []
  negate : Bool := false
  deriving Inhabited

namespace Clause

def decoder : Decoder Clause := fun room document => do
  let members ← Members.read? ["attribute", "op", "values", "negate"] room document
  return {
    attributeName := ← members.defaulted "attribute" "" .string
    op := ← members.required "op" Operator.decoder
    values := ← members.defaulted "values" [] (.list Attribute.decoder)
    negate := ← members.defaulted "negate" false .bool }

end Clause

end FeatureFlags
