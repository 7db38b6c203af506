/-!
Points in time, as whole seconds since the start of 1970 and nanoseconds. A leap second counts as
more nanoseconds of the second before it. Times are read from texts such as
`2024-02-29T12:00:00.5+01:00` and from milliseconds.
-/
namespace FeatureFlags

structure Timestamp where
  seconds : Int
  nanos : Nat
  deriving DecidableEq, Inhabited

namespace Timestamp

def before (t u : Timestamp) : Bool :=
  t.seconds < u.seconds || (t.seconds == u.seconds && t.nanos < u.nanos)

def minMillis : Int := -8334601228800000

def maxMillis : Int := 8210266876799999

def ofMillis? (millis : Int) : Option Timestamp :=
  if minMillis ≤ millis ∧ millis ≤ maxMillis then
    some ⟨millis / 1000, (millis % 1000).toNat * 1000000⟩
  else none

/-- Milliseconds since the start of 1970; a leap second runs past the end of its second. -/
def millis (t : Timestamp) : Int := t.seconds * 1000 + t.nanos / 1000000

def isLeapYear (year : Nat) : Bool := year % 4 == 0 && (year % 100 != 0 || year % 400 == 0)

def daysInMonth (year month : Nat) : Nat :=
  if month = 2 then if isLeapYear year then 29 else 28
  else if month = 4 ∨ month = 6 ∨ month = 9 ∨ month = 11 then 30
  else 31

def daysBeforeYear (year : Nat) : Nat :=
  365 * year + (year + 3) / 4 + (year + 399) / 400 - (year + 99) / 100

def daysBeforeMonth (year month : Nat) : Nat :=
  (List.range (month - 1)).foldl (fun days m => days + daysInMonth year (m + 1)) 0

/-- Days from the start of 1970 to a day. -/
def dayNumber (year month day : Nat) : Int :=
  (daysBeforeYear year + daysBeforeMonth year month + (day - 1) : Nat) - (daysBeforeYear 1970 : Nat)

def digit? (c : Char) : Option Nat :=
  if '0' ≤ c ∧ c ≤ '9' then some (c.toNat - '0'.toNat) else none

def readDigits? : Nat → Nat → List Char → Option (Nat × List Char)
  | 0, value, text => some (value, text)
  | _ + 1, _, [] => none
  | count + 1, value, c :: rest => do
      let d ← digit? c
      readDigits? count (10 * value + d) rest

def readChar? (accepted : List Char) : List Char → Option (List Char)
  | c :: rest => if accepted.contains c then some rest else none
  | [] => none

def readPair? (low high : Nat) (text : List Char) : Option (Nat × List Char) := do
  let (value, rest) ← readDigits? 2 0 text
  guard (low ≤ value ∧ value ≤ high)
  return (value, rest)

/-- Nanoseconds after a point, which needs one digit at least; digits after the ninth do not
count. -/
def readFraction? : List Char → Option (Nat × List Char)
  | '.' :: rest =>
      let (digits, rest) := rest.span (digit? · |>.isSome)
      if digits.isEmpty then none
      else
        let nine := (digits ++ List.replicate 9 '0').take 9
        some (nine.foldl (fun n c => 10 * n + (c.toNat - '0'.toNat)) 0, rest)
  | text => some (0, text)

def readOffset? : List Char → Option (Int × List Char)
  | 'Z' :: rest | 'z' :: rest => some (0, rest)
  | c :: rest => do
      guard (c == '+' || c == '-' || c == '−')
      let (hours, rest) ← readPair? 0 23 rest
      let rest ← readChar? [':'] rest
      let (minutes, rest) ← readPair? 0 59 rest
      let offset : Int := hours * 3600 + minutes * 60
      return (if c == '+' then offset else -offset, rest)
  | [] => none

def read? (text : String) : Option Timestamp := do
  let (year, text) ← readDigits? 4 0 text.toList
  let (month, text) ← readPair? 1 12 (← readChar? ['-'] text)
  let (day, text) ← readPair? 1 31 (← readChar? ['-'] text)
  guard (day ≤ daysInMonth year month)
  let (hour, text) ← readPair? 0 23 (← readChar? ['T', 't', ' '] text)
  let (minute, text) ← readPair? 0 59 (← readChar? [':'] text)
  let (second, text) ← readPair? 0 60 (← readChar? [':'] text)
  let (nanos, text) ← readFraction? text
  let (offset, text) ← readOffset? text
  guard text.isEmpty
  let wall : Int := dayNumber year month day * 86400 + hour * 3600 + minute * 60
  return if second = 60 then ⟨wall + 59 - offset, nanos + 1000000000⟩
    else ⟨wall + second - offset, nanos⟩

end Timestamp

end FeatureFlags
