import FeatureFlags.Regex.NamedSet

/-!
Patterns. Sequences and choices are kept without nesting: the parts of a sequence are no sequences, and
the options of a choice are no choices. A choice between characters or sets is one set, and options that
begin alike share their beginning.
-/
namespace FeatureFlags.Regex

open Unicode (CharSet)

inductive Look where
  | start
  | finish
  | startLine (crlf : Bool)
  | finishLine (crlf : Bool)
  | boundary (word : CharSet)
  | noBoundary (word : CharSet)
  | wordStart (word : CharSet)
  | wordFinish (word : CharSet)
  | halfStart (word : CharSet)
  | halfFinish (word : CharSet)
  deriving DecidableEq

namespace Look

def isIn (word : CharSet) : Option Char → Bool
  | some c => word.contains c
  | none => false

def holds : Look → (before after : Option Char) → Bool
  | .start, before, _ => before.isNone
  | .finish, _, after => after.isNone
  | .startLine false, before, _ => before.isNone || before == some '\n'
  | .startLine true, before, after =>
      before.isNone || before == some '\n' || (before == some '\r' && after != some '\n')
  | .finishLine false, _, after => after.isNone || after == some '\n'
  | .finishLine true, before, after =>
      after.isNone || after == some '\r' || (after == some '\n' && before != some '\r')
  | .boundary word, before, after => isIn word before != isIn word after
  | .noBoundary word, before, after => isIn word before == isIn word after
  | .wordStart word, before, after => !isIn word before && isIn word after
  | .wordFinish word, before, after => isIn word before && !isIn word after
  | .halfStart word, before, _ => !isIn word before
  | .halfFinish word, _, after => !isIn word after

end Look

inductive Pattern where
  | empty
  | set (set : CharSet)
  | look (look : Look)
  /-- A group that is remembered. -/
  | group (body : Pattern)
  | cat (first second : Pattern)
  | alt (first second : Pattern)
  | iterate (body : Pattern) (least : Nat) (most : Option Nat)
  deriving DecidableEq

namespace Pattern

def consumes : Pattern → Bool
  | .empty => false
  | .set _ => true
  | .look _ => false
  | .group body => body.consumes
  | .cat a b => a.consumes || b.consumes
  | .alt a b => a.consumes || b.consumes
  | .iterate body _ most => most != some 0 && body.consumes

/-- Whether every match takes a character; unknown where a set without characters is involved. -/
def alwaysConsumes? : Pattern → Option Bool
  | .empty => some false
  | .set s => if s.ranges.isEmpty then none else some true
  | .look _ => some false
  | .group body => body.alwaysConsumes?
  | .cat a b => do return (← a.alwaysConsumes?) || (← b.alwaysConsumes?)
  | .alt a b => do return (← a.alwaysConsumes?) && (← b.alwaysConsumes?)
  | .iterate body least _ => body.alwaysConsumes?.map (least != 0 && ·)

def isAnchoredAtStart : Pattern → Bool
  | .look l => l = .start
  | .group body => body.isAnchoredAtStart
  | .cat a b => a.isAnchoredAtStart || (!a.consumes && b.isAnchoredAtStart)
  | .alt a b => a.isAnchoredAtStart && b.isAnchoredAtStart
  | .iterate body least _ => least != 0 && body.isAnchoredAtStart
  | .empty | .set _ => false

def isAnchoredAtFinish : Pattern → Bool
  | .look l => l = .finish
  | .group body => body.isAnchoredAtFinish
  | .cat a b => b.isAnchoredAtFinish || (!b.consumes && a.isAnchoredAtFinish)
  | .alt a b => a.isAnchoredAtFinish && b.isAnchoredAtFinish
  | .iterate body least _ => least != 0 && body.isAnchoredAtFinish
  | .empty | .set _ => false

def hasGroup : Pattern → Bool
  | .group _ => true
  | .cat a b | .alt a b => a.hasGroup || b.hasGroup
  | .iterate body _ _ => body.hasGroup
  | .empty | .set _ | .look _ => false

/-- The parts of a sequence; there are none in an empty pattern. -/
def parts : Pattern → List Pattern
  | .empty => []
  | .cat a b => a.parts ++ b.parts
  | p => [p]

def options : Pattern → List Pattern
  | .alt a b => a.options ++ b.options
  | p => [p]

def ofParts : List Pattern → Pattern
  | [] => .empty
  | [p] => p
  | p :: ps => .cat p (ofParts ps)

def ofOptions : List Pattern → Pattern
  | [] => .set .none
  | [p] => p
  | p :: ps => .alt p (ofOptions ps)

def sequence (patterns : List Pattern) : Pattern := ofParts (patterns.flatMap parts)

def char? : Pattern → Option Char
  | .set s => s.single?
  | _ => none

/-- The set of a pattern that is a set of no or several characters. -/
def wideSet? : Pattern → Option CharSet
  | .set s => if s.single?.isSome then none else some s
  | _ => none

def text? (pattern : Pattern) : Option (List Char) :=
  match pattern.parts.mapM char? with
  | some (c :: cs) => some (c :: cs)
  | _ => none

def pieces : List Pattern → List (List Pattern)
  | [] => []
  | p :: ps =>
      match pieces ps with
      | (q :: qs) :: others =>
          if p.char?.isSome && q.char?.isSome then (p :: q :: qs) :: others
          else [p] :: (q :: qs) :: others
      | others => [p] :: others

/-- How many pieces two sequences begin with alike; groups are all different. -/
def sharedPieces : List (List Pattern) → List (List Pattern) → Nat
  | a :: as, b :: bs => if a == b && !a.any hasGroup then sharedPieces as bs + 1 else 0
  | _, _ => 0

/-- A choice whose options share nothing. -/
def mergeOptions (patterns : List Pattern) : Pattern :=
  let all := patterns.flatMap options
  match all with
  | [p] => p
  | _ =>
      match all.mapM char? with
      | some chars => .set (.ofPoints (chars.map Char.toNat))
      | none =>
          match all.mapM wideSet? with
          | some sets => .set (.unions sets)
          | none => ofOptions all

def choice (patterns : List Pattern) : Pattern :=
  match mergeOptions patterns with
  | .alt first rest =>
      let split := (Pattern.alt first rest).options.map fun p => pieces p.parts
      match split with
      | leader :: others =>
          let shared := others.foldl (fun n pieces => min n (sharedPieces leader pieces)) leader.length
          if shared = 0 || split.any (·.length < 2) then .alt first rest
          else
            sequence ((leader.take shared).flatten ++
              [mergeOptions (split.map fun pieces => sequence (pieces.drop shared).flatten)])
      | [] => .alt first rest
  | merged => merged

/-- Repeats a pattern. What takes no character says the same however often it is repeated. -/
def times (body : Pattern) (least : Nat) (most : Option Nat) : Pattern :=
  let (least, most) :=
    if body.consumes then (least, most) else (min least 1, some (min (most.getD 1) 1))
  if most = some 0 then .empty
  else if least = 1 ∧ most = some 1 then body
  else .iterate body least most

end Pattern

end FeatureFlags.Regex
