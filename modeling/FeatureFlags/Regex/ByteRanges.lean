import FeatureFlags.Unicode.CharSet

/-!
Sets of characters as they are encoded: sequences of ranges of bytes, in order, such that each encoded
character of the set is in exactly one sequence.
-/
namespace FeatureFlags.Regex

structure ByteRange where
  first : Nat
  last : Nat
  deriving DecidableEq

namespace ByteRange

/-- Numbers of `count` continuation bytes, in order, from `first` to `last` with what stands before
them: the byte that leads, plus `lead`. -/
def sequences (lead : Nat) : Nat → Nat → Nat → List (List ByteRange)
  | 0, first, last => [[⟨lead + first, lead + last⟩]]
  | count + 1, first, last =>
      let unit := 1 <<< (6 * (count + 1))
      let full := (List.replicate (count + 1) (⟨0x80, 0xBF⟩ : ByteRange))
      let low := first / unit
      let high := last / unit
      let inside (top first last : Nat) : List (List ByteRange) :=
        (sequences 0x80 count (first % unit) (last % unit)).map (⟨lead + top, lead + top⟩ :: ·)
      if low = high then inside low first last
      else
        let startsFull := first % unit = 0
        let endsFull := last % unit = unit - 1
        let least := if startsFull then low else low + 1
        let most := if endsFull then high + 1 else high
        (if startsFull then [] else inside low first (unit - 1)) ++
          (if least < most then [⟨lead + least, lead + most - 1⟩ :: full] else []) ++
          (if endsFull then [] else inside high 0 last)

/-- The lengths of encoded characters: up to which code point, how many bytes follow the first, and what
the first byte counts from. -/
def lengths : List (Nat × Nat × Nat × Nat) :=
  [(0, 0x7F, 0, 0), (0x80, 0x7FF, 1, 0xC0), (0x800, 0xFFFF, 2, 0xE0), (0x10000, 0x10FFFF, 3, 0xF0)]

def ofRange (range : Nat × Nat) : List (List ByteRange) :=
  lengths.flatMap fun (least, most, count, lead) =>
    let first := max least range.1
    let last := min most range.2
    if first ≤ last then sequences lead count first last else []

end ByteRange

def encoded (set : Unicode.CharSet) : List (List ByteRange) := set.ranges.flatMap ByteRange.ofRange

end FeatureFlags.Regex
