import FeatureFlags.Url.Domain
import FeatureFlags.Url.Percent

/-!
Hosts of URLs: names and addresses. A name whose last part is a number is an address of four bytes,
written in one to four parts; an address in brackets has eight pieces, of which a run of zeros may be
left out.
-/
namespace FeatureFlags.Url

inductive Host where
  | name (text : String)
  | ipv4 (address : Nat)
  | ipv6 (pieces : List Nat)
  deriving DecidableEq, Inhabited

namespace Host

def valueIn? (base : Nat) (digits : List Char) : Option Nat :=
  digits.foldlM (fun n c =>
    (Hex.value? c).bind fun d => if d < base then some (base * n + d) else none) 0

def ipv4Number? : List Char → Option Nat
  | [] => none
  | '0' :: 'x' :: digits | '0' :: 'X' :: digits => valueIn? 16 digits
  | ['0'] => some 0
  | '0' :: digits => valueIn? 8 digits
  | digits => valueIn? 10 digits

/-- The parts of a name between its dots, of which one may also be its end. -/
def labels (name : List Char) : List (List Char) :=
  let parts := splitAt (· == '.') name
  if parts.getLast? = some [] then parts.dropLast else parts

def endsInNumber (name : List Char) : Bool :=
  match (labels name).getLast? with
  | some label => (label != [] && label.all Char.isDigit) || (ipv4Number? label).isSome
  | none => false

/-- The last part gives all bytes that the other parts, of one byte each, leave. -/
def ipv4? (name : List Char) : Option Nat := do
  let numbers ← (labels name).mapM ipv4Number?
  let last ← numbers.getLast?
  let bytes := numbers.dropLast
  if bytes.length < 4 ∧ bytes.all (· < 256) ∧ last < 1 <<< (8 * (4 - bytes.length)) then
    let above := bytes.foldl (fun n byte => 256 * n + byte) 0
    some ((above <<< (8 * (4 - bytes.length))) + last)
  else none

def piece? (text : List Char) : Option Nat :=
  if 1 ≤ text.length ∧ text.length ≤ 4 then valueIn? 16 text else none

def byte? (text : List Char) : Option Nat :=
  if text.length = 1 ∨ text.head? ≠ some '0' then
    (valueIn? 10 text).bind fun n => if text ≠ [] ∧ n < 256 then some n else none
  else none

def embedded? (text : List Char) : Option (List Nat) :=
  match (splitAt (· == '.') text).mapM byte? with
  | some [a, b, c, d] => some [256 * a + b, 256 * c + d]
  | _ => none

def pieces? : List (List Char) → Option (List Nat)
  | [] => some []
  | [last] => (piece? last).map ([·]) <|> embedded? last
  | first :: rest => do return (← piece? first) :: (← pieces? rest)

def splitGap? : List Char → Option (List Char × List Char)
  | [] => none
  | ':' :: ':' :: rest => some ([], rest)
  | c :: rest => (splitGap? rest).map fun (before, after) => (c :: before, after)

def parts (text : List Char) : List (List Char) :=
  if text = [] then [] else splitAt (· == ':') text

def ipv6? (text : List Char) : Option (List Nat) :=
  match splitGap? text with
  | some (before, after) => do
      let before ← (parts before).mapM piece?
      let after ← pieces? (parts after)
      let given := before.length + after.length
      if given < 8 then some (before ++ List.replicate (8 - given) 0 ++ after) else none
  | none => (pieces? (parts text)).filter (·.length == 8)

def bracketed? : List Char → Option (List Char)
  | '[' :: rest => some rest
  | _ => none

def closed? (rest : List Char) : Option Host :=
  if rest.getLast? = some ']' then (ipv6? rest.dropLast).map .ipv6 else none

/-- A character that stands for itself in no name. -/
def isForbidden (c : Char) : Bool :=
  c.toNat == 0 || isOneOf "\t\n\r #/:<>?@[\\]^|" c

def special? (text : List Char) : Option Host :=
  match bracketed? text with
  | some rest => closed? rest
  | none => do
      let name ← String.fromUTF8? (percentDecode text).toByteArray
      let name ← Domain.ofText? name.toList
      if name = [] then none
      else if endsInNumber name then (ipv4? name).map .ipv4
      else some (.name (String.ofList name))

def plain? (text : List Char) : Option Host :=
  match bracketed? text with
  | some rest => closed? rest
  | none =>
      if text.any isForbidden then none
      else some (.name (String.ofList (percentEncode isUnprintable text)))

end Host

end FeatureFlags.Url
