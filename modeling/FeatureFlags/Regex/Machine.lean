import FeatureFlags.Regex.ByteRanges
import FeatureFlags.Regex.Pattern
import Std.Data.HashMap

/-!
How large a machine for a pattern is. A machine reads bytes. Its states are numbered as they are made;
each takes the same room, and so does each link that a state with several ways on holds. A pattern is
refused if its machine takes too much room, be it the one that reads forward or the one that reads
backward.
-/
namespace FeatureFlags.Regex

open Unicode (CharSet)

/-- A machine that is being made: how many states it has, and how many bytes their links take. -/
structure Machine where
  states : Nat := 0
  linkBytes : Nat := 0

structure Edge where
  range : ByteRange
  next : Nat
  deriving DecidableEq

/-- How a pattern stands in a choice; the second option makes the states that join all options. -/
inductive Place where
  | alone
  | second
  | later

namespace Machine

def stateSize : Nat := 32

def linkSize : Nat := 4

def edgeSize : Nat := 8

def maxSize : Nat := 10 <<< 20

def size (machine : Machine) : Nat := stateSize * machine.states + machine.linkBytes

def isTooLarge (machine : Machine) : Bool := maxSize < machine.size

def addStates (machine : Machine) (count : Nat) : Machine :=
  { machine with states := machine.states + count }

def addLinks (machine : Machine) (count : Nat) : Machine :=
  { machine with linkBytes := machine.linkBytes + linkSize * count }

def addEdges (machine : Machine) (count : Nat) : Machine :=
  { machine with linkBytes := machine.linkBytes + edgeSize * count }

/-- A number for a key, by which it is looked up in a table with so many slots. -/
def slot (slots : Nat) (key : List Nat) : Nat :=
  let mixed := key.foldl (fun h n => (h ^^^ UInt64.ofNat n) * 1099511628211) 14695981039346656037
  mixed.toNat % slots

/-- A machine with the states that may be shared, by the slots of their edges. A slot remembers the last
state only. -/
structure Shared where
  machine : Machine
  known : Std.HashMap Nat (List Edge × Nat)

def Shared.slots : Nat := 10000

/-- The state with the given edges: one that is known, or a new one. -/
def Shared.state (shared : Shared) (edges : List Edge) : Nat × Shared :=
  let slot := slot slots (edges.flatMap fun e => [e.range.first, e.range.last, e.next])
  let made : Nat × Shared :=
    (shared.machine.states, ⟨(shared.machine.addStates 1).addEdges edges.length,
      shared.known.insert slot (edges, shared.machine.states)⟩)
  match shared.known[slot]? with
  | some (others, state) => if others = edges then (state, shared) else made
  | none => made

def byFirst : List (List ByteRange) → List (ByteRange × List (List ByteRange))
  | [] => []
  | [] :: rest => byFirst rest
  | (range :: tail) :: rest =>
      match byFirst rest with
      | (other, tails) :: more =>
          if range = other then (range, tail :: tails) :: more
          else (range, [tail]) :: (other, tails) :: more
      | [] => [(range, [tail])]

def Shared.read (target : Nat) : Nat → List (List ByteRange) → Shared → Nat × Shared
  | 0, _, shared => (target, shared)
  | length + 1, sequences, shared =>
      if sequences.all (·.isEmpty) then (target, shared)
      else
        let (edges, shared) := (byFirst sequences).foldl (fun (edges, shared) (range, tails) =>
          let (next, shared) := Shared.read target length tails shared
          (edges ++ [⟨range, next⟩], shared)) (([] : List Edge), shared)
        shared.state edges

/-- A machine with the states for ends of sequences, by the slots of where they lead. -/
structure Endings where
  machine : Machine
  known : Std.HashMap Nat ((Nat × ByteRange) × Nat)

def Endings.slots : Nat := 1000

/-- The state that reads a byte and goes on to `next`: one that is known, or a new one. -/
def Endings.state (endings : Endings) (next : Nat) (range : ByteRange) : Nat × Endings :=
  let slot := slot slots [next, range.first, range.last]
  let made : Nat × Endings :=
    (endings.machine.states, ⟨endings.machine.addStates 1,
      endings.known.insert slot ((next, range), endings.machine.states)⟩)
  match endings.known[slot]? with
  | some (other, state) => if other = (next, range) then (state, endings) else made
  | none => made

def Endings.read (target : Nat) (endings : Endings) (sequence : List ByteRange) : Endings :=
  (sequence.foldl (fun (next, endings) range => endings.state next range) (target, endings)).2

def addSet (backward : Bool) (set : CharSet) (machine : Machine) : Machine :=
  match set.single? with
  | some c => machine.addStates c.utf8Size
  | none =>
      if set.isAscii then (machine.addStates 2).addEdges set.ranges.length
      else
        let sequences := encoded set
        if backward then
          let target := machine.states + 1
          let start : Endings := ⟨(machine.addStates 2).addLinks sequences.length, ∅⟩
          (sequences.foldl (Endings.read target) start).machine
        else
          let target := machine.states
          (Shared.read target 4 sequences ⟨machine.addStates 1, ∅⟩).2.machine

/-- Parts words where one of them ends. Words that end before any has gone on count once. -/
def partWords (isFirst : Bool) : List (List UInt8) → List (List (List UInt8))
  | [] => [[]]
  | [] :: rest =>
      if isFirst && rest.head? == some [] then partWords isFirst rest else [] :: partWords isFirst rest
  | word :: rest =>
      match partWords false rest with
      | part :: parts => (word :: part) :: parts
      | [] => [[word]]

def tails (words : List (List UInt8)) : List (List (List UInt8)) :=
  (words.filterMap List.head?).eraseDups.map fun byte =>
    words.filterMap fun
      | first :: tail => if first = byte then some tail else none
      | [] => none

def addWords : Nat → List (List UInt8) → Machine → Machine
  | 0, _, machine => machine
  | length + 1, words, machine =>
      let parts := (partWords true words).map tails
      let machine := parts.flatten.foldl (fun machine tails =>
        if tails.all (·.isEmpty) then machine else addWords length tails machine) machine
      let machine := parts.foldl (fun machine tails =>
        match tails.length with
        | 0 => machine
        | 1 => (machine.addStates 1).addLinks 1
        | count => ((machine.addStates 1).addLinks 1).addEdges count) machine
      (machine.addStates 1).addLinks (parts.length - 1)

def repeated (step : Machine → Machine) : Nat → Machine → Machine
  | 0, machine => machine
  | count + 1, machine =>
      if machine.isTooLarge then machine else repeated step count (step machine)

def addCopies (step : Machine → Machine) (count : Nat) (machine : Machine) : Machine :=
  if count = 0 then machine.addStates 1 else repeated step count machine

def join (machine : Machine) : Place → Machine
  | .alone => machine
  | .second => (machine.addStates 2).addLinks 2
  | .later => machine.addLinks 1

/-- The words that a choice is between, if it is between words only. -/
def words? (backward : Bool) (pattern : Pattern) : Option (List (List UInt8)) :=
  pattern.options.mapM fun option => option.text?.map fun text =>
    let word := text.flatMap String.utf8EncodeChar
    if backward then word.reverse else word

def add (backward : Bool) : Pattern → Place → Machine → Machine
  | .empty, place, machine => (machine.addStates 1).join place
  | .set s, place, machine => (machine.addSet backward s).join place
  | .look _, place, machine => (machine.addStates 1).join place
  | .group body, place, machine =>
      if backward then (add backward body .alone machine).join place
      else ((add backward body .alone (machine.addStates 1)).addStates 1).join place
  | .cat a b, place, machine =>
      if backward then (add backward a .alone (add backward b .alone machine)).join place
      else (add backward b .alone (add backward a .alone machine)).join place
  | .alt a b, .alone, machine =>
      match words? backward (.alt a b) with
      | some words =>
          addWords (words.foldl (fun n word => max n word.length) 0 + 1) words (machine.addStates 1)
      | none => add backward b .second (add backward a .alone machine)
  | .alt a b, .second, machine => add backward b .later (add backward a .second machine)
  | .alt a b, .later, machine => add backward b .later (add backward a .later machine)
  | .iterate body least most, place, machine =>
      let step := add backward body .alone
      let added := match least, most with
        | 0, some 1 => ((step (machine.addStates 1)).addStates 1).addLinks 2
        | 0, none =>
            if body.alwaysConsumes? = some true then (step (machine.addStates 1)).addLinks 2
            else ((step machine).addStates 3).addLinks 4
        | least, none => ((addCopies step least machine).addStates 1).addLinks 2
        | least, some most =>
            let machine := addCopies step least machine
            if least = most then machine
            else
              repeated (fun machine => (step (machine.addStates 1)).addLinks 2) (most - least)
                (machine.addStates 1)
      added.join place

def skipping (isAnchored : Bool) : Machine :=
  if isAnchored then ({} : Machine).addStates 1
  else ((({} : Machine).addStates 3).addEdges 1).addLinks 2

def forward (pattern : Pattern) : Machine :=
  (add false pattern .alone ((skipping pattern.isAnchoredAtStart).addStates 1)).addStates 2

def backward (pattern : Pattern) : Machine :=
  (add true pattern .alone (skipping pattern.isAnchoredAtFinish)).addStates 1

end Machine

def Pattern.fits (pattern : Pattern) : Bool :=
  !(Machine.forward pattern).isTooLarge && !(Machine.backward pattern).isTooLarge

end FeatureFlags.Regex
