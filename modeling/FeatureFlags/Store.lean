import FeatureFlags.Dataset

/-!
The store of a client: the current dataset, and whether there ever was a whole one. A snapshot is
the dataset of a moment.
-/
namespace FeatureFlags

structure Store where
  data : Dataset := {}
  initialized : Bool := false
  deriving Inhabited

namespace Store

def init (_store : Store) (data : Dataset) : Store := ⟨data, true⟩

/-- Stores a descriptor if its version is higher than what is stored, and tells whether it was. -/
def upsert (store : Store) (kind : Kind) (key : String) (descriptor : Descriptor) : Store × Bool :=
  let (data, applied) := store.data.upsert kind key descriptor
  ({ store with data }, applied)

def get? (store : Store) (kind : Kind) (key : String) : Option Item := store.data.item? kind key

def all (store : Store) (kind : Kind) : Keyed Item := store.data.items kind

def snapshot (store : Store) : Dataset := store.data

end Store

end FeatureFlags
