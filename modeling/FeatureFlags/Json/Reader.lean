import FeatureFlags.Hex
import FeatureFlags.Json.Document
import FeatureFlags.Json.Number

/-!
Reading JSON text. Blanks are the space, the line feed, the carriage return and the tab; strings
hold no control characters; a whole text is one value with nothing but blanks around it.
-/
namespace FeatureFlags.Document

def isBlank (c : Char) : Bool := c == ' ' || c == '\n' || c == '\t' || c == '\r'

def skipBlanks (text : List Char) : List Char := text.dropWhile isBlank

/-- What a string is written with: a character, or a 16-bit unit given by number. -/
inductive Piece where
  | char (c : Char)
  | unit (n : Nat)
  deriving DecidableEq

def unit? (a b c d : Char) : Option Nat := do
  return 4096 * (← Hex.value? a) + 256 * (← Hex.value? b) + 16 * (← Hex.value? c) + (← Hex.value? d)

def escaped? : Char → Option Char
  | '"' => some '"'
  | '\\' => some '\\'
  | '/' => some '/'
  | 'b' => some '\x08'
  | 'f' => some '\x0c'
  | 'n' => some '\n'
  | 'r' => some '\r'
  | 't' => some '\t'
  | _ => none

/-- Reads the pieces of a string after its opening quote, to its closing quote. -/
def readPieces? : List Char → Option (List Piece × List Char)
  | [] => none
  | '"' :: rest => some ([], rest)
  | '\\' :: 'u' :: a :: b :: c :: d :: rest => do
      let n ← unit? a b c d
      let (pieces, rest) ← readPieces? rest
      return (.unit n :: pieces, rest)
  | '\\' :: c :: rest => do
      let c ← escaped? c
      let (pieces, rest) ← readPieces? rest
      return (.char c :: pieces, rest)
  | c :: rest =>
      if c.toNat < 32 || c == '\\' then none
      else (readPieces? rest).map fun (pieces, rest) => (.char c :: pieces, rest)

def isHighSurrogate (n : Nat) : Bool := 0xD800 ≤ n && n ≤ 0xDBFF

def isLowSurrogate (n : Nat) : Bool := 0xDC00 ≤ n && n ≤ 0xDFFF

/-- The text that pieces spell: a high surrogate needs a low one right after it, and a low one
stands nowhere else. -/
def charsOfPieces? : List Piece → Option (List Char)
  | [] => some []
  | .char c :: rest => (charsOfPieces? rest).map (c :: ·)
  | .unit n :: .unit m :: rest =>
      if isHighSurrogate n then
        if isLowSurrogate m then
          let c := Char.ofNat (0x10000 + 0x400 * (n - 0xD800) + (m - 0xDC00))
          (charsOfPieces? rest).map (c :: ·)
        else none
      else if isLowSurrogate n then none
      else (charsOfPieces? (.unit m :: rest)).map (Char.ofNat n :: ·)
  | .unit n :: rest =>
      if isHighSurrogate n || isLowSurrogate n then none
      else (charsOfPieces? rest).map (Char.ofNat n :: ·)

def readString? (text : List Char) : Option (Option String × List Char) := do
  let (pieces, rest) ← readPieces? text
  return ((charsOfPieces? pieces).map String.ofList, rest)

mutual

/-- Reads one value and gives what follows it; the fuel bounds the steps. -/
def readValue? : Nat → List Char → Option (Document × List Char)
  | 0, _ => none
  | fuel + 1, text =>
      match skipBlanks text with
      | 'n' :: 'u' :: 'l' :: 'l' :: rest => some (.null, rest)
      | 't' :: 'r' :: 'u' :: 'e' :: rest => some (.bool true, rest)
      | 'f' :: 'a' :: 'l' :: 's' :: 'e' :: rest => some (.bool false, rest)
      | '"' :: rest => (readString? rest).map fun (text, rest) => (.string text, rest)
      | '[' :: rest =>
          match skipBlanks rest with
          | ']' :: rest => some (.array [], rest)
          | rest => (readItems? fuel rest).map fun (items, rest) => (.array items, rest)
      | '{' :: rest =>
          match skipBlanks rest with
          | '}' :: rest => some (.object [], rest)
          | rest => (readMembers? fuel rest).map fun (members, rest) => (.object members, rest)
      | rest => (Json.Numeral.read? rest).map fun (n, rest) => (.number n.value?, rest)

def readItems? : Nat → List Char → Option (List Document × List Char)
  | 0, _ => none
  | fuel + 1, text => do
      let (item, rest) ← readValue? fuel text
      match skipBlanks rest with
      | ',' :: rest =>
          let (items, rest) ← readItems? fuel rest
          return (item :: items, rest)
      | ']' :: rest => return ([item], rest)
      | _ => none

def readMembers? : Nat → List Char → Option (List (Option String × Document) × List Char)
  | 0, _ => none
  | fuel + 1, text =>
      match skipBlanks text with
      | '"' :: rest => do
          let (name, rest) ← readString? rest
          match skipBlanks rest with
          | ':' :: rest =>
              let (value, rest) ← readValue? fuel rest
              match skipBlanks rest with
              | ',' :: rest =>
                  let (members, rest) ← readMembers? fuel rest
                  return ((name, value) :: members, rest)
              | '}' :: rest => return ([(name, value)], rest)
              | _ => none
          | _ => none
      | _ => none

end

/-- Reads a whole text. Every step takes a character, so twice its length bounds the steps. -/
def read? (text : String) : Option Document := do
  let chars := text.toList
  let (document, rest) ← readValue? (2 * chars.length + 2) chars
  guard (skipBlanks rest).isEmpty
  return document

end FeatureFlags.Document
