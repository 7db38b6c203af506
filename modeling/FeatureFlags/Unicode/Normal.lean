import FeatureFlags.Unicode.Composition

/-!
Normal form: marks stand in the order of their ranks, and a character is composed with the marks after
it where there is a composed character.
-/
namespace FeatureFlags.Unicode.Normal

structure Composition where
  composed : Nat
  first : Nat
  second : Nat

def readPair (text : List Char) : Nat × Nat :=
  match text.span (· != '+') with
  | (first, _ :: second) => (CharSet.hexNat first, CharSet.hexNat second)
  | (first, []) => (CharSet.hexNat first, 0)

def readRun (words : List (List Char)) : List Composition :=
  match words.filter (· != []) with
  | [] => []
  | start :: pairs =>
      pairs.mapIdx fun i pair => ⟨CharSet.hexNat start + i, (readPair pair).1, (readPair pair).2⟩

def readLine : List Char → List (List Char)
  | [] => [[]]
  | ';' :: rest => [] :: readLine rest
  | c :: rest =>
      match readLine rest with
      | [] => [[c]]
      | run :: others => (c :: run) :: others

def compositions : List Composition :=
  compositionLines.flatMap fun line =>
    (readLine line.toList).flatMap fun run => readRun (CharSet.words run)

def ranks : List (Nat × CharSet) := rankTable.map fun row => (row.1, .ofLines row.2)

def rank (c : Nat) : Nat :=
  match ranks.find? (·.2.containsPoint c) with
  | some row => row.1
  | none => 0

namespace Hangul

def leadBase : Nat := 0x1100
def vowelBase : Nat := 0x1161
def tailBase : Nat := 0x11A7
def syllableBase : Nat := 0xAC00
def leads : Nat := 19
def vowels : Nat := 21
def tails : Nat := 28

def isSyllable (c : Nat) : Bool := syllableBase ≤ c && c < syllableBase + leads * vowels * tails

def decompose (c : Nat) : List Nat :=
  let index := c - syllableBase
  let lead := leadBase + index / (vowels * tails)
  let vowel := vowelBase + index / tails % vowels
  if index % tails = 0 then [lead, vowel] else [lead, vowel, tailBase + index % tails]

def compose? (a b : Nat) : Option Nat :=
  if leadBase ≤ a ∧ a < leadBase + leads ∧ vowelBase ≤ b ∧ b < vowelBase + vowels then
    some (syllableBase + ((a - leadBase) * vowels + (b - vowelBase)) * tails)
  else if isSyllable a ∧ (a - syllableBase) % tails = 0 ∧ tailBase < b ∧ b < tailBase + tails then
    some (a + (b - tailBase))
  else none

end Hangul

/-- How often a composed character may be composed of another. -/
def maxDepth : Nat := 4

def decompose : Nat → Nat → List Nat
  | 0, c => [c]
  | depth + 1, c =>
      if Hangul.isSyllable c then Hangul.decompose c
      else
        match compositions.find? (·.composed == c) with
        | some pair => decompose depth pair.first ++ [pair.second]
        | none => [c]

def compose? (a b : Nat) : Option Nat :=
  match Hangul.compose? a b with
  | some c => some c
  | none => (compositions.find? fun pair => pair.first == a && pair.second == b).map (·.composed)

/-- Adds a character after others, given last first, but before marks of higher rank. -/
def insert (c : Nat) : List Nat → List Nat
  | [] => [c]
  | d :: before => if rank c ≠ 0 ∧ rank c < rank d then d :: insert c before else c :: d :: before

def inOrder (text : List Nat) : List Nat := (text.foldl (fun before c => insert c before) []).reverse

/-- Composes what follows a character and marks that were not composed with it, given last first. -/
def composeFrom (base : Nat) (marks : List Nat) : List Nat → List Nat
  | [] => base :: marks.reverse
  | c :: rest =>
      let composed := if marks.all fun mark => rank mark < rank c then compose? base c else none
      match composed with
      | some base => composeFrom base marks rest
      | none =>
          if rank c = 0 then base :: marks.reverse ++ composeFrom c [] rest
          else composeFrom base (c :: marks) rest

def composeAll : List Nat → List Nat
  | [] => []
  | c :: rest => if rank c = 0 then composeFrom c [] rest else c :: composeAll rest

def form (text : List Char) : List Char :=
  (composeAll (inOrder (text.flatMap fun c => decompose maxDepth c.toNat))).map Char.ofNat

end FeatureFlags.Unicode.Normal
