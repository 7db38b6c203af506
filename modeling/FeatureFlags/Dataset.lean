import FeatureFlags.Flag
import FeatureFlags.Segment

/-!
Datasets: flags and segments by the keys they are stored under. A descriptor holds an item or, for an
item that was deleted, a tombstone that keeps its version.
-/
namespace FeatureFlags

inductive Kind where
  | flags
  | segments
  deriving DecidableEq, Inhabited

namespace Kind

def name : Kind → String
  | .flags => "flags"
  | .segments => "segments"

def dropStart? (start text : List Char) : Option (List Char) :=
  if start.isPrefixOf text then some (text.drop start.length) else none

/-- A path is a slash, the name of a namespace, a slash and a key, which may be any text. -/
def ofPath? (path : String) : Option (Kind × String) :=
  match dropStart? "/flags/".toList path.toList with
  | some key => some (.flags, String.ofList key)
  | none => (dropStart? "/segments/".toList path.toList).map (.segments, String.ofList ·)

def path (kind : Kind) (key : String) : String := "/" ++ kind.name ++ "/" ++ key

end Kind

inductive Item where
  | flag (definition : Flag)
  | segment (definition : Segment)
  deriving Inhabited

namespace Item

def key : Item → String
  | .flag f => f.key
  | .segment s => s.key

def version : Item → Nat
  | .flag f => f.version
  | .segment s => s.version

def isDeleted : Item → Bool
  | .flag f => f.deleted
  | .segment s => s.deleted

def flag? : Item → Option Flag
  | .flag f => some f
  | .segment _ => none

def segment? : Item → Option Segment
  | .flag _ => none
  | .segment s => some s

def decoder : Kind → Decoder Item
  | .flags => fun room document => (Flag.decoder room document).map .flag
  | .segments => fun room document => (Segment.decoder room document).map .segment

end Item

/-- What is stored under a key; without an item it is a tombstone. -/
structure Descriptor where
  version : Nat
  item : Option Item
  deriving Inhabited

namespace Descriptor

def tombstone (version : Nat) : Descriptor := ⟨version, none⟩

/-- An item that is marked deleted becomes a tombstone. -/
def ofItem (item : Item) : Descriptor :=
  if item.isDeleted then tombstone item.version else ⟨item.version, some item⟩

end Descriptor

/-- Flags and segments as the service sends them all at once. -/
structure Definitions where
  flags : Keyed Flag := ∅
  segments : Keyed Segment := ∅
  deriving Inhabited

def Definitions.decoder : Decoder Definitions := fun room document => do
  let members ← Members.read? ["flags", "segments"] room document
  return {
    flags := ← members.defaulted "flags" ∅ (.table Flag.decoder)
    segments := ← members.defaulted "segments" ∅ (.table Segment.decoder) }

structure Dataset where
  flags : Keyed Descriptor := ∅
  segments : Keyed Descriptor := ∅
  deriving Inhabited

namespace Dataset

def empty : Dataset := {}

def ofDefinitions (definitions : Definitions) : Dataset where
  flags := definitions.flags.map (.ofItem ∘ .flag)
  segments := definitions.segments.map (.ofItem ∘ .segment)

def entries (data : Dataset) : Kind → Keyed Descriptor
  | .flags => data.flags
  | .segments => data.segments

def insert (data : Dataset) (kind : Kind) (key : String) (descriptor : Descriptor) : Dataset :=
  match kind with
  | .flags => { data with flags := data.flags.insert key descriptor }
  | .segments => { data with segments := data.segments.insert key descriptor }

def find? (data : Dataset) (kind : Kind) (key : String) : Option Descriptor :=
  (data.entries kind).get? key

@[simp] theorem find?_insert (data : Dataset) (kind kind' : Kind) (key key' : String)
    (descriptor : Descriptor) :
    (data.insert kind key descriptor).find? kind' key' =
      if kind' = kind ∧ key' = key then some descriptor else data.find? kind' key' := by
  cases kind <;> cases kind' <;> simp [insert, find?, entries]

/-- Datasets are the same if every lookup is. -/
theorem ext_find? {first second : Dataset}
    (same : ∀ kind key, first.find? kind key = second.find? kind key) : first = second := by
  obtain ⟨flags₁, segments₁⟩ := first
  obtain ⟨flags₂, segments₂⟩ := second
  have flags : flags₁ = flags₂ := Keyed.ext_get? (same .flags)
  have segments : segments₁ = segments₂ := Keyed.ext_get? (same .segments)
  rw [flags, segments]

def item? (data : Dataset) (kind : Kind) (key : String) : Option Item :=
  (data.find? kind key).bind (·.item)

def items (data : Dataset) (kind : Kind) : Keyed Item := (data.entries kind).filterMap (·.item)

@[simp] theorem get?_items (data : Dataset) (kind : Kind) (key : String) :
    (data.items kind).get? key = data.item? kind key := Keyed.get?_filterMap _ _ key

def flag? (data : Dataset) (key : String) : Option Flag := (data.item? .flags key).bind Item.flag?

def segment? (data : Dataset) (key : String) : Option Segment :=
  (data.item? .segments key).bind Item.segment?

/-- Stores a descriptor unless the version stored is as high; tells whether it was stored. -/
def upsert (data : Dataset) (kind : Kind) (key : String) (descriptor : Descriptor) :
    Dataset × Bool :=
  match data.find? kind key with
  | some old =>
      if old.version < descriptor.version then (data.insert kind key descriptor, true)
      else (data, false)
  | none => (data.insert kind key descriptor, true)

end Dataset

end FeatureFlags
