import FeatureFlags.Unicode.Category

/-!
Sets of characters as ranges of code points. The ranges of a set are in order, do not touch each other
and hold no surrogates, so that equal sets have equal ranges.
-/
namespace FeatureFlags.Unicode

structure CharSet where
  ranges : List (Nat × Nat)
  deriving DecidableEq, Inhabited

namespace CharSet

def maxPoint : Nat := 0x10FFFF

def withoutSurrogates (range : Nat × Nat) : List (Nat × Nat) :=
  let (first, last) := range
  (if first < 0xD800 then [(first, min last 0xD7FF)] else []) ++
    (if 0xDFFF < last then [(max first 0xE000, last)] else [])

def joinFrom (first last : Nat) : List (Nat × Nat) → List (Nat × Nat)
  | [] => [(first, last)]
  | (a, b) :: rest =>
      if a ≤ last + 1 then joinFrom first (max last b) rest else (first, last) :: joinFrom a b rest

def join : List (Nat × Nat) → List (Nat × Nat)
  | [] => []
  | (first, last) :: rest => joinFrom first last rest

def isBefore (a b : Nat × Nat) : Bool := a.1 ≤ b.1

def ofRanges (ranges : List (Nat × Nat)) : CharSet :=
  ⟨join ((ranges.flatMap withoutSurrogates).mergeSort isBefore)⟩

def ofPoints (points : List Nat) : CharSet := .ofRanges (points.map fun n => (n, n))

def none : CharSet := ⟨[]⟩

def range (first last : Nat) : CharSet :=
  if first ≤ last then ⟨withoutSurrogates (first, last)⟩ else none

def between (first last : Char) : CharSet := .range first.toNat last.toNat

def single (c : Char) : CharSet := ⟨[(c.toNat, c.toNat)]⟩

def single? (set : CharSet) : Option Char :=
  match set.ranges with
  | [(first, last)] => if first = last then some (Char.ofNat first) else Option.none
  | _ => Option.none

def containsPoint (set : CharSet) (n : Nat) : Bool := set.ranges.any fun r => r.1 ≤ n && n ≤ r.2

def contains (set : CharSet) (c : Char) : Bool := set.containsPoint c.toNat

def union (a b : CharSet) : CharSet := ⟨join (a.ranges.merge b.ranges isBefore)⟩

def gapsFrom (next : Nat) : List (Nat × Nat) → List (Nat × Nat)
  | [] => if next ≤ maxPoint then [(next, maxPoint)] else []
  | (first, last) :: rest =>
      if next < first then (next, first - 1) :: gapsFrom (last + 1) rest else gapsFrom (last + 1) rest

def compl (set : CharSet) : CharSet := ⟨(gapsFrom 0 set.ranges).flatMap withoutSurrogates⟩

def all : CharSet := none.compl

def inter (a b : CharSet) : CharSet := (a.compl.union b.compl).compl

def diff (a b : CharSet) : CharSet := (a.compl.union b).compl

def symmDiff (a b : CharSet) : CharSet := (a.union b).diff (a.inter b)

def isAscii (set : CharSet) : Bool := set.ranges.all (·.2 < 0x80)

def unions (sets : List CharSet) : CharSet := .ofRanges (sets.flatMap (·.ranges))

def hexValue (c : Char) : Nat :=
  if c ≤ '9' then c.toNat - '0'.toNat else c.toNat - 'a'.toNat + 10

def hexNat (digits : List Char) : Nat := digits.foldl (fun n c => 16 * n + hexValue c) 0

def readRange (text : List Char) : Nat × Nat :=
  match text.span (· != '-') with
  | (first, _ :: last) => (hexNat first, hexNat last)
  | (first, []) => (hexNat first, hexNat first)

def words : List Char → List (List Char)
  | [] => [[]]
  | ' ' :: rest => [] :: words rest
  | c :: rest =>
      match words rest with
      | [] => [[c]]
      | word :: others => (c :: word) :: others

def readLines (lines : List String) : List (Nat × Nat) :=
  lines.flatMap fun line => (words line.toList).map readRange

def ofLines (lines : List String) : CharSet := .ofRanges (readLines lines)

def categories : List (String × CharSet) := categoryTable.map fun row => (row.1, .ofLines row.2)

def assigned : CharSet := .unions (categories.map (·.2))

def ofCategories (names : List String) : CharSet :=
  let named := CharSet.unions ((categories.filter (names.contains ·.1)).map (·.2))
  if names.contains "Cn" then named.union assigned.compl else named

end CharSet

/-- A property, or a value of one, by its names: the characters of some categories, with some besides
and without others. -/
structure PropertyRow where
  names : List String
  categories : List String
  besides : List String
  without : List String

def PropertyRow.set (row : PropertyRow) : CharSet :=
  ((CharSet.ofCategories row.categories).union (.ofLines row.besides)).diff (.ofLines row.without)

end FeatureFlags.Unicode
