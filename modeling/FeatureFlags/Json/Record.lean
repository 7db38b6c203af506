import FeatureFlags.Binary64
import FeatureFlags.Json.Document

/-!
Reading records from documents. A record is written as an object, where members that it does not
know are passed over and a member that it knows stands at most once, or as an array of its members
in their order, where members at the end may be left out. A member that is not given has its default,
if it has one.
-/
namespace FeatureFlags

/-- Reads a value from a document in which at most so many arrays and objects stand inside one
another. -/
abbrev Decoder (α : Type) := Nat → Document → Option α

namespace Decoder

variable {α β : Type}

def json : Decoder Json := Document.toJson?

def string : Decoder String
  | _, .string text => text
  | _, _ => none

def bool : Decoder Bool
  | _, .bool value => some value
  | _, _ => none

/-- An integer of the given range; a double is none, whatever its value. -/
def intBetween (low high : Int) : Decoder Int
  | _, .number (some (.int n)) => if low ≤ n ∧ n ≤ high then some n else none
  | _, _ => none

def int64 : Decoder Int := intBetween Binary64.minInt64 Binary64.maxInt64

def natBelow (limit : Nat) : Decoder Nat := fun room document =>
  (intBetween 0 (limit - 1) room document).map Int.toNat

def word64 : Decoder Nat := natBelow (1 <<< 64)

def word32 : Decoder Nat := natBelow (1 <<< 32)

/-- Null stands for no value. -/
def optional (decoder : Decoder α) : Decoder (Option α)
  | _, .null => some none
  | room, document => (decoder room document).map some

def list (decoder : Decoder α) : Decoder (List α)
  | room + 1, .array items => items.mapM (decoder room)
  | _, _ => none

def entry (decoder : Decoder α) (room : Nat) (member : Option String × Document) :
    Option (String × α) := do
  let name ← member.1
  let value ← decoder room member.2
  return (name, value)

/-- A table written as an object; of a repeated name the last value stands. -/
def table (decoder : Decoder α) : Decoder (Keyed α)
  | room + 1, .object members => (members.mapM (entry decoder room)).map Keyed.ofList
  | _, _ => none

def run? (decoder : Decoder α) (document : Document) : Option α :=
  decoder Document.maxDepth document

end Decoder

/-- The members of a record that a document gives, with the room left inside them. -/
structure Members where
  given : List (String × Document)
  room : Nat

namespace Members

variable {α : Type}

/-- The members of an object; every name has to spell text. -/
def ofObject? : Nat → Document → Option Members
  | room + 1, .object members => do
      let given ← members.mapM (Decoder.entry (fun _ document => some document) room)
      return ⟨given, room⟩
  | _, _ => none

def known? (names : List String) (members : Members) : Option Members :=
  let given := members.given.filter (names.contains ·.1)
  if (given.map (·.1)).Nodup then some ⟨given, members.room⟩ else none

def read? (names : List String) : Nat → Document → Option Members
  | room + 1, .array items =>
      if items.length ≤ names.length then some ⟨names.zip items, room⟩ else none
  | room, document => (ofObject? room document).bind (known? names)

def find? (members : Members) (name : String) : Option Document :=
  (members.given.find? (·.1 == name)).map (·.2)

def required (members : Members) (name : String) (decoder : Decoder α) : Option α :=
  (members.find? name).bind (decoder members.room)

def defaulted (members : Members) (name : String) (default : α) (decoder : Decoder α) : Option α :=
  match members.find? name with
  | some document => decoder members.room document
  | none => some default

/-- A member that null or nothing stands for no value of. -/
def optional (members : Members) (name : String) (decoder : Decoder α) : Option (Option α) :=
  members.defaulted name none decoder.optional

end Members

end FeatureFlags
