import FeatureFlags.Hex

/-!
Percent-encoding. Each part of a URL has its own set of characters that are not written as they are;
all characters outside printable ASCII are in each of these sets.
-/
namespace FeatureFlags.Url

def isUnprintable (c : Char) : Bool := c.toNat < 0x20 || 0x7E < c.toNat

def isOneOf (set : String) (c : Char) : Bool := set.toList.contains c

def inFragmentSet (c : Char) : Bool := isUnprintable c || isOneOf " \"<>`" c

def inQuerySet (c : Char) : Bool := isUnprintable c || isOneOf " \"#<>" c

def inSpecialQuerySet (c : Char) : Bool := inQuerySet c || c == '\''

def inPathSet (c : Char) : Bool := inFragmentSet c || isOneOf "#?\x7b\x7d" c

/-- Characters that would end a segment or pass for an encoded one. -/
def inSegmentSet (c : Char) : Bool := inPathSet c || isOneOf "/%" c

def inSpecialSegmentSet (c : Char) : Bool := inSegmentSet c || c == '\\'

def inUserSet (c : Char) : Bool := inPathSet c || isOneOf "/:;=@[\\]^|" c

def encodeByte (byte : UInt8) : List Char :=
  ['%', Hex.capital (byte.toNat / 16), Hex.capital (byte.toNat % 16)]

def encodeChar (c : Char) : List Char := (String.utf8EncodeChar c).flatMap encodeByte

def percentEncode (inSet : Char → Bool) (text : List Char) : List Char :=
  text.flatMap fun c => if inSet c then encodeChar c else [c]

def bytesOf (text : List Char) : List UInt8 := text.flatMap String.utf8EncodeChar

/-- The bytes that a text stands for; a percent sign that no two digits follow stands for itself. -/
def percentDecode : List Char → List UInt8
  | [] => []
  | '%' :: a :: b :: rest =>
      match Hex.value? a, Hex.value? b with
      | some high, some low => UInt8.ofNat (16 * high + low) :: percentDecode rest
      | _, _ => bytesOf ['%'] ++ percentDecode (a :: b :: rest)
  | c :: rest => String.utf8EncodeChar c ++ percentDecode rest

end FeatureFlags.Url
