import FeatureFlags.Regex.Pattern

/-!
Where patterns match. A pattern takes the positions of a text where a match may start to the positions
where it may end; sets of positions are numbers whose bits tell which positions are in. A text matches
if some match starts anywhere and ends anywhere.
-/
namespace FeatureFlags.Regex

def charMask (holds : Char → Bool) : List Char → Nat
  | [] => 0
  | c :: rest => (if holds c then 1 else 0) + 2 * charMask holds rest

/-- The positions whose neighbours satisfy a condition, from the one after `before` on. -/
def lookMask (holds : Option Char → Option Char → Bool) (before : Option Char) : List Char → Nat
  | [] => if holds before none then 1 else 0
  | c :: rest =>
      (if holds before (some c) then 1 else 0) + 2 * lookMask holds (some c) rest

inductive Matcher where
  | empty
  | step (mask : Nat)
  | check (mask : Nat)
  | cat (first second : Matcher)
  | alt (first second : Matcher)
  | iterate (body : Matcher) (least : Nat) (most : Option Nat)

def Pattern.on (text : List Char) : Pattern → Matcher
  | .empty => .empty
  | .set s => .step (charMask s.contains text)
  | .look l => .check (lookMask l.holds none text)
  | .group body => body.on text
  | .cat a b => .cat (a.on text) (b.on text)
  | .alt a b => .alt (a.on text) (b.on text)
  | .iterate body least most => .iterate (body.on text) least most

namespace Positions

def without (positions other : Nat) : Nat := positions ^^^ (positions &&& other)

/-- Repeats a move exactly so many times; from nowhere it leads nowhere. -/
def repeated (move : Nat → Nat) : Nat → Nat → Nat
  | 0, positions => positions
  | count + 1, positions => if positions = 0 then 0 else repeated move count (move positions)

def spread (move : Nat → Nat) : Nat → Nat → Nat → Nat
  | 0, reached, _ => reached
  | count + 1, reached, fresh =>
      let next := without (move fresh) reached
      if next = 0 then reached else spread move count (reached ||| next) next

end Positions

namespace Matcher

/-- Where matches end that start at the given positions of a text with `length` characters. Every
repetition adds a position, so there are never more useful ones than positions. -/
def reach (length : Nat) : Matcher → Nat → Nat
  | .empty, positions => positions
  | .step mask, positions => (positions &&& mask) <<< 1
  | .check mask, positions => positions &&& mask
  | .cat a b, positions => b.reach length (a.reach length positions)
  | .alt a b, positions => a.reach length positions ||| b.reach length positions
  | .iterate body least most, positions =>
      let reached := Positions.repeated (body.reach length) least positions
      let more := match most with
        | some most => min (most - least) (length + 1)
        | none => length + 1
      Positions.spread (body.reach length) more reached reached

end Matcher

def Pattern.isMatch (pattern : Pattern) (text : List Char) : Bool :=
  (pattern.on text).reach text.length ((1 <<< (text.length + 1)) - 1) != 0

end FeatureFlags.Regex
