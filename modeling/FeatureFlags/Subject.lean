import FeatureFlags.Attribute

/-!
Subjects of evaluation: whoever a flag is evaluated for. Two attributes are built in, the key and
the secondary key, and no custom attribute stands in for them.
-/
namespace FeatureFlags

structure Subject where
  key : String
  secondary : Option String := none
  custom : Keyed Attribute := ∅
  deriving Inhabited

namespace Subject

def withSecondary (subject : Subject) (secondary : String) : Subject :=
  { subject with secondary := some secondary }

def withAttribute (subject : Subject) (name : String) (value : Attribute) : Subject :=
  { subject with custom := subject.custom.insert name value }

def value? (subject : Subject) (name : String) : Option Attribute :=
  if name = "key" then some (.string subject.key)
  else if name = "secondary" then subject.secondary.map .string
  else subject.custom.get? name

def decoder : Decoder Subject := fun room document => do
  let members ← Members.read? ["key", "secondary", "custom"] room document
  return {
    key := ← members.required "key" .string
    secondary := ← members.optional "secondary" .string
    custom := ← members.defaulted "custom" ∅ (.table Attribute.decoder) }

def toJson (subject : Subject) : Json :=
  Json.ofMembers <|
    [("key", .string subject.key)] ++
    (subject.secondary.map fun text => ("secondary", .string text)).toList ++
    [("custom", .object (subject.custom.map Attribute.toJson).toList)]

end Subject

end FeatureFlags
