import FeatureFlags.Binary64
import FeatureFlags.Json.Record
import FeatureFlags.SemVer
import FeatureFlags.Timestamp

/-!
Attribute values: what is known of a subject, and what clauses compare it with. Every number is a
double here, and there are no objects. Operators read a value as a time, a version or a text to hash
where it has one.
-/
namespace FeatureFlags

inductive Attribute where
  | string (text : String)
  | number (value : Float)
  | boolean (value : Bool)
  | array (items : List Attribute)
  | null
  deriving Inhabited

namespace Attribute

mutual

/-- Numbers are equal as doubles are: zeros of either sign are, and not-a-number equals nothing. -/
def same : Attribute → Attribute → Bool
  | .string a, .string b => a == b
  | .number a, .number b => a == b
  | .boolean a, .boolean b => a == b
  | .array as, .array bs => sameItems as bs
  | .null, .null => true
  | _, _ => false

def sameItems : List Attribute → List Attribute → Bool
  | [], [] => true
  | a :: as, b :: bs => same a b && sameItems as bs
  | _, _ => false

end

mutual

/-- The attribute value that a value of JSON stands for; objects stand for none. -/
def ofJson? : Json → Option Attribute
  | .null => some .null
  | .bool value => some (.boolean value)
  | .int value => some (.number (Float.ofInt value))
  | .float value => some (.number value)
  | .string text => some (.string text)
  | .array items => (ofItems? items).map .array
  | .object _ => none

def ofItems? : List Json → Option (List Attribute)
  | [] => some []
  | item :: rest => do
      let value ← ofJson? item
      let values ← ofItems? rest
      return value :: values

end

mutual

def toJson : Attribute → Json
  | .string text => .string text
  | .number value => Json.ofFloat value
  | .boolean value => .bool value
  | .array items => .array (itemsToJson items)
  | .null => .null

def itemsToJson : List Attribute → List Json
  | [] => []
  | item :: rest => toJson item :: itemsToJson rest

end

def decoder : Decoder Attribute := fun room document =>
  (document.toJson? room).bind ofJson?

def ofInt (n : Int) : Attribute := .number (Float.ofInt n)

def string? : Attribute → Option String
  | .string text => some text
  | _ => none

def number? : Attribute → Option Float
  | .number value => some value
  | _ => none

/-- A number counts milliseconds, a text is a date and time. -/
def timestamp? : Attribute → Option Timestamp
  | .number value => Timestamp.ofMillis? (Binary64.toInt64 value)
  | .string text => Timestamp.read? text
  | _ => none

def semVer? : Attribute → Option SemVer
  | .string text => SemVer.read? text
  | _ => none

/-- The text that stands for a value in a rollout: a text itself, and a whole number written out. -/
def bucketText? : Attribute → Option String
  | .string text => some text
  | .number value => if Binary64.isIntegral value then some (toString (Binary64.toInt64 value)) else none
  | _ => none

end Attribute

end FeatureFlags
