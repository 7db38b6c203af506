import FeatureFlags.Dataset
import FeatureFlags.EventStream
import FeatureFlags.Json.Reader

/-!
What an event of the service's stream tells: that all data or an item are different from now on, with
the data or with a hint to fetch them. Events with other names and items of other namespaces tell
nothing; data that do not read are a failure.
-/
namespace FeatureFlags

inductive Update where
  | put (definitions : Definitions)
  | patch (kind : Kind) (key : String) (descriptor : Descriptor)
  | delete (kind : Kind) (key : String) (version : Nat)
  | fetchAll
  | fetchItem (kind : Kind) (key : String)
  deriving Inhabited

namespace Update

def putDecoder : Decoder Definitions := fun room document => do
  let members ← Members.read? ["data"] room document
  members.required "data" Definitions.decoder

/-- The path of an item and its value, which is looked at only if the path is known. -/
def patchDecoder : Decoder (String × Json) := fun room document => do
  let members ← Members.read? ["path", "data"] room document
  return (← members.required "path" .string, ← members.required "data" .json)

def deleteDecoder : Decoder (String × Nat) := fun room document => do
  let members ← Members.read? ["path", "version"] room document
  return (← members.required "path" .string, ← members.required "version" .word64)

def item? (kind : Kind) (value : Json) : Option Item :=
  (Item.decoder kind).run? (Document.ofJson value)

def atPath (path : String) (update : Kind → String → Option Update) : Option (Option Update) :=
  match Kind.ofPath? path with
  | some (kind, key) => (update kind key).map some
  | none => some none

def read? (name data : String) : Option (Option Update) := do
  match name with
  | "put" =>
      let definitions ← (Document.read? data).bind putDecoder.run?
      return some (put definitions)
  | "patch" =>
      let (path, value) ← (Document.read? data).bind patchDecoder.run?
      atPath path fun kind key => (item? kind value).map fun i => patch kind key (.ofItem i)
  | "delete" =>
      let (path, version) ← (Document.read? data).bind deleteDecoder.run?
      atPath path fun kind key => some (delete kind key version)
  | "indirect/put" => return some fetchAll
  | "indirect/patch" =>
      atPath (String.ofList (Unicode.trim data.toList)) fun kind key => some (fetchItem kind key)
  | _ => return none

def malformed : Failure := .invalidData "malformed event"

def ofEvent (event : EventStream.Event) : Except Failure (Option Update) :=
  match read? event.name event.data with
  | some update => .ok update
  | none => .error malformed

end Update

end FeatureFlags
