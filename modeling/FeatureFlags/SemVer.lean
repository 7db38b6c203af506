/-!
Semantic versions. A version is three numbers, pre-release identifiers and build identifiers. The
order is total: numbers first, then pre-release identifiers, where none at all is greatest, then build
identifiers, where none at all is least.
-/
namespace FeatureFlags

/-- A part of a pre-release or of build metadata: digits are a number after some zeros, anything else
is a word. -/
inductive Identifier where
  | number (value zeros : Nat)
  | word (text : String)
  deriving DecidableEq, Inhabited

structure SemVer where
  major : Nat
  minor : Nat
  patch : Nat
  pre : List Identifier
  build : List Identifier
  deriving DecidableEq, Inhabited

namespace Identifier

def toText : Identifier → String
  | .number value zeros => String.ofList (List.replicate zeros '0') ++ toString value
  | .word text => text

/-- Numbers come before words; words are ordered by their characters. -/
def compare : Identifier → Identifier → Ordering
  | .number value zeros, .number value' zeros' =>
      (Ord.compare value value').then (Ord.compare zeros zeros')
  | .number _ _, .word _ => .lt
  | .word _, .number _ _ => .gt
  | .word text, .word text' => Ord.compare text text'

/-- Identifier by identifier; of two lists of which one starts the other the shorter is less. -/
def compareLists : List Identifier → List Identifier → Ordering
  | [], [] => .eq
  | [], _ :: _ => .lt
  | _ :: _, [] => .gt
  | a :: as, b :: bs => (compare a b).then (compareLists as bs)

def isDigit (c : Char) : Bool := '0' ≤ c && c ≤ '9'

def isIdentifierChar (c : Char) : Bool :=
  isDigit c || ('a' ≤ c && c ≤ 'z') || ('A' ≤ c && c ≤ 'Z') || c == '-'

def natOfDigits (digits : List Char) : Nat :=
  digits.foldl (fun n c => 10 * n + (c.toNat - '0'.toNat)) 0

def ofChars? (chars : List Char) : Option Identifier :=
  if chars.isEmpty || !chars.all isIdentifierChar then none
  else if chars.all isDigit then
    let value := natOfDigits chars
    let zeros := (chars.takeWhile (· == '0')).length
    some (.number value (if value = 0 then zeros - 1 else zeros))
  else some (.word (String.ofList chars))

def pieces : List Char → List (List Char)
  | [] => [[]]
  | '.' :: rest => [] :: pieces rest
  | c :: rest =>
      match pieces rest with
      | [] => [[c]]
      | piece :: others => (c :: piece) :: others

def hasNoZeros : Identifier → Bool
  | .number _ zeros => zeros == 0
  | .word _ => true

end Identifier

namespace SemVer

def comparePre : List Identifier → List Identifier → Ordering
  | [], [] => .eq
  | [], _ :: _ => .gt
  | _ :: _, [] => .lt
  | a :: as, b :: bs => Identifier.compareLists (a :: as) (b :: bs)

def compare (v w : SemVer) : Ordering :=
  (Ord.compare v.major w.major).then <| (Ord.compare v.minor w.minor).then <|
    (Ord.compare v.patch w.patch).then <| (comparePre v.pre w.pre).then <|
      Identifier.compareLists v.build w.build

def dotted (identifiers : List Identifier) : String :=
  ".".intercalate (identifiers.map Identifier.toText)

/-- A number of a version: no zeros before it, and it fits 64 bits. -/
def readNumber? (text : List Char) : Option (Nat × List Char) :=
  let (digits, rest) := text.span Identifier.isDigit
  let value := Identifier.natOfDigits digits
  match digits with
  | [] => none
  | '0' :: _ :: _ => none
  | _ => if value < 1 <<< 64 then some (value, rest) else none

def readDot? : List Char → Option (List Char)
  | '.' :: rest => some rest
  | _ => none

def readMarked? (mark : Char) : List Char → Option (List Identifier × List Char)
  | [] => some ([], [])
  | c :: rest =>
      if c = mark then do
        let (chars, rest) := rest.span fun c => Identifier.isIdentifierChar c || c == '.'
        let identifiers ← (Identifier.pieces chars).mapM Identifier.ofChars?
        return (identifiers, rest)
      else some ([], c :: rest)

def readChars? (text : List Char) : Option SemVer := do
  let (major, text) ← readNumber? text
  let (minor, text) ← readNumber? (← readDot? text)
  let (patch, text) ← readNumber? (← readDot? text)
  let (pre, text) ← readMarked? '-' text
  guard (pre.all Identifier.hasNoZeros)
  let (build, text) ← readMarked? '+' text
  guard text.isEmpty
  return ⟨major, minor, patch, pre, build⟩

/-- The text with zeros in place of the numbers that are missing before its first `-` or `+`. -/
def pad? (text : List Char) : Option (List Char) :=
  let (core, rest) := text.span fun c => c != '-' && c != '+'
  match core.count '.' with
  | 0 => some (core ++ ".0.0".toList ++ rest)
  | 1 => some (core ++ ".0".toList ++ rest)
  | _ => none

/-- Reads a version whose last numbers may be missing; they count as zero. -/
def read? (text : String) : Option SemVer :=
  readChars? text.toList <|> (pad? text.toList).bind readChars?

end SemVer

end FeatureFlags
