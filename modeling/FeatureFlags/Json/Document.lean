import FeatureFlags.Json.Basic

/-!
JSON text as it was written, before its values are looked at: members in written order with their
repetitions, strings that may spell no text, numerals that may exceed every double, any depth. A
reader of a record looks only at the parts that it knows, so a fault in the rest is no fault.
-/
namespace FeatureFlags

/-- A `number` or `string` without content is well written but stands for no number or text. -/
inductive Document where
  | null
  | bool (value : Bool)
  | number (value : Option Json)
  | string (text : Option String)
  | array (items : List Document)
  | object (members : List (Option String × Document))
  deriving Inhabited

namespace Document

def maxDepth : Nat := 127

mutual

/-- The value of a document in which at most `room` arrays and objects stand inside one another. -/
def toJson? (room : Nat) : Document → Option Json
  | .null => some .null
  | .bool value => some (.bool value)
  | .number value => value
  | .string text => text.map .string
  | .array items =>
      match room with
      | 0 => none
      | room + 1 => (itemsToJson? room items).map .array
  | .object members =>
      match room with
      | 0 => none
      | room + 1 => (membersToJson? room members).map Json.ofMembers

def itemsToJson? (room : Nat) : List Document → Option (List Json)
  | [] => some []
  | item :: rest => do
      let value ← toJson? room item
      let values ← itemsToJson? room rest
      return value :: values

def membersToJson? (room : Nat) : List (Option String × Document) →
    Option (List (String × Json))
  | [] => some []
  | (name, item) :: rest => do
      let name ← name
      let value ← toJson? room item
      let values ← membersToJson? room rest
      return (name, value) :: values

end

mutual

def ofJson : Json → Document
  | .null => .null
  | .bool value => .bool value
  | .int value => .number (some (.int value))
  | .float value => .number (some (.float value))
  | .string text => .string (some text)
  | .array items => .array (ofItems items)
  | .object members => .object (ofMembers members)

def ofItems : List Json → List Document
  | [] => []
  | item :: rest => ofJson item :: ofItems rest

def ofMembers : List (String × Json) → List (Option String × Document)
  | [] => []
  | (name, value) :: rest => (some name, ofJson value) :: ofMembers rest

end

end Document

end FeatureFlags
