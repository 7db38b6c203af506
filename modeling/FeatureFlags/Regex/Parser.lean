import FeatureFlags.Hex
import FeatureFlags.Regex.Machine
import FeatureFlags.Regex.Matcher
import FeatureFlags.Unicode.Blank

/-!
Reading patterns. Nothing looks around or back, repetition counts are written out, and a pattern that
nests too deeply or grows too large is refused. Flags hold from where they stand to the end of their
group.
-/
namespace FeatureFlags.Regex

open Unicode (CharSet)

structure Flags where
  ignoreCase : Bool := false
  multiLine : Bool := false
  dotAll : Bool := false
  swapGreed : Bool := false
  unicode : Bool := true
  crlf : Bool := false
  verbose : Bool := false

namespace Flags

def set? (flags : Flags) (on : Bool) : Char → Option Flags
  | 'i' => some { flags with ignoreCase := on }
  | 'm' => some { flags with multiLine := on }
  | 's' => some { flags with dotAll := on }
  | 'U' => some { flags with swapGreed := on }
  | 'u' => some { flags with unicode := on }
  | 'R' => some { flags with crlf := on }
  | 'x' => some { flags with verbose := on }
  | _ => none

/-- Reads flags up to a colon or a closing parenthesis. No flag stands twice, and a hyphen, which
turns off the flags after it, stands once and before a flag. Tells how many flags there were. -/
def read? (flags : Flags) (on : Bool) (seen : List Char) :
    List Char → Option (Flags × Nat × List Char)
  | [] => none
  | '-' :: rest =>
      if !on then none
      else
        match rest with
        | ':' :: _ | ')' :: _ => none
        | _ => read? flags false seen rest
  | c :: rest =>
      if c == ':' || c == ')' then some (flags, seen.length, c :: rest)
      else if seen.contains c then none
      else
        match flags.set? on c with
        | some flags => read? flags on (c :: seen) rest
        | none => none

end Flags

def dropComment (text : List Char) : List Char := (text.dropWhile (· != '\n')).drop 1

/-- Drops blanks and comments; the fuel bounds the number of comments. -/
def dropVerbose : Nat → List Char → List Char
  | 0, text => text
  | fuel + 1, text =>
      match Unicode.trimStart text with
      | '#' :: rest => dropVerbose fuel (dropComment rest)
      | rest => rest

def skip (flags : Flags) (text : List Char) : List Char :=
  if flags.verbose then dropVerbose (text.length + 1) text else text

inductive Atom where
  | literal (c : Char)
  | set (set : CharSet)
  | look (look : Look)
  | dot

namespace Atom

def isMeta (c : Char) : Bool := "\\.+*?()|[]\x7b\x7d^$#&-~".toList.contains c

/-- Any ASCII character but letters, digits and angle brackets may be escaped for no reason. -/
def isEscapable (c : Char) : Bool :=
  isMeta c || (c.toNat < 0x80 && !c.isAlphanum && c != '<' && c != '>')

def char? (n : Nat) : Option Char := if n.isValidChar then some (Char.ofNat n) else none

def readHex? (flags : Flags) : Nat → Nat → List Char → Option (Nat × List Char)
  | 0, value, text => some (value, text)
  | count + 1, value, text =>
      match skip flags text with
      | [] => none
      | c :: rest => (Hex.value? c).bind fun d => readHex? flags count (16 * value + d) rest

/-- The text up to a closing brace, blanks left out where they do not count. -/
def readBraced? (flags : Flags) (text : List Char) : Option (List Char × List Char) :=
  match text.span (· != '\x7d') with
  | (inside, _ :: rest) =>
      some (if flags.verbose then dropAll (inside.length + 1) inside else inside, rest)
  | (_, []) => none
where
  dropAll : Nat → List Char → List Char
    | 0, text => text
    | fuel + 1, text =>
        match skip flags text with
        | [] => []
        | c :: rest => c :: dropAll fuel rest

/-- A character by its number: so many digits, or any number of them in braces. Without Unicode two
digits above ASCII are a byte, which no text holds by itself. -/
def readNumbered? (flags : Flags) (digits : Nat) (text : List Char) : Option (Atom × List Char) :=
  match skip flags text with
  | '\x7b' :: rest => do
      let (inside, rest) ← readBraced? flags rest
      guard !inside.isEmpty
      let value ← inside.foldlM (fun n c => (Hex.value? c).map (16 * n + ·)) 0
      return (.literal (← char? value), rest)
  | text => do
      let (value, rest) ← readHex? flags digits 0 text
      let c ← char? value
      guard (flags.unicode || digits != 2 || value < 0x80)
      return (.literal c, rest)

def splitOnce (mark : List Char) : List Char → Option (List Char × List Char)
  | [] => none
  | c :: rest =>
      if mark.isPrefixOf (c :: rest) then some ([], (c :: rest).drop mark.length)
      else (splitOnce mark rest).map fun (before, after) => (c :: before, after)

def query? (text : List Char) : Option (CharSet × Bool) :=
  match splitOnce ['!', '='] text with
  | some (name, value) => (Unicode.valued? name value).map (·, true)
  | none =>
      match splitOnce [':'] text with
      | some (name, value) => (Unicode.valued? name value).map (·, false)
      | none =>
          match splitOnce ['='] text with
          | some (name, value) => (Unicode.valued? name value).map (·, false)
          | none => (Unicode.named? text).map (·, false)

def fold (flags : Flags) (set : CharSet) : CharSet :=
  if !flags.ignoreCase then set
  else if flags.unicode then set.folded
  else set.foldedAscii

/-- A set or its complement. Without Unicode a complement would hold bytes that are no characters. -/
def negate? (flags : Flags) (negated : Bool) (set : CharSet) : Option CharSet :=
  if negated then if flags.unicode then some set.compl else none else some set

def readProperty? (flags : Flags) (negated : Bool) (text : List Char) :
    Option (Atom × List Char) := do
  guard flags.unicode
  let (name, rest) ← match skip flags text with
    | '\x7b' :: rest => readBraced? flags rest
    | '\\' :: _ => none
    | c :: rest => some ([c], rest)
    | [] => none
  let (named, differs) ← query? name
  return (.set (← negate? flags (negated != differs) (fold flags named)), rest)

def perlSet (flags : Flags) : Char → CharSet
  | 'd' => NamedSet.digit flags.unicode
  | 's' => NamedSet.blank flags.unicode
  | _ => NamedSet.word flags.unicode

def wordSet (flags : Flags) : CharSet := perlSet flags 'w'

def boundary? (flags : Flags) : String → Option Look
  | "start" => some (.wordStart (wordSet flags))
  | "end" => some (.wordFinish (wordSet flags))
  | "start-half" => some (.halfStart (wordSet flags))
  | "end-half" => some (.halfFinish (wordSet flags))
  | _ => none

def isBoundaryChar (c : Char) : Bool := c.isAlpha || c == '-'

/-- Braces after a word boundary name its kind, unless they start like a count. -/
def readBoundary? (flags : Flags) (text : List Char) : Option (Atom × List Char) :=
  match text with
  | '\x7b' :: rest =>
      match skip flags rest with
      | [] => none
      | c :: _ =>
          if isBoundaryChar c then do
            let (name, after) ← readBraced? flags rest
            let look ← boundary? flags (String.ofList name)
            return (.look look, after)
          else some (.look (.boundary (wordSet flags)), text)
  | _ => some (.look (.boundary (wordSet flags)), text)

def readEscape? (flags : Flags) : List Char → Option (Atom × List Char)
  | [] => none
  | c :: rest =>
      if c == 'x' then readNumbered? flags 2 rest
      else if c == 'u' then readNumbered? flags 4 rest
      else if c == 'U' then readNumbered? flags 8 rest
      else if c == 'p' then readProperty? flags false rest
      else if c == 'P' then readProperty? flags true rest
      else if ['d', 's', 'w'].contains c then some (.set (perlSet flags c), rest)
      else if ['D', 'S', 'W'].contains c then
        (negate? flags true (perlSet flags c.toLower)).map fun set => (.set set, rest)
      else if isEscapable c then some (.literal c, rest)
      else
        match c with
        | 'a' => some (.literal '\x07', rest)
        | 'f' => some (.literal '\x0c', rest)
        | 't' => some (.literal '\t', rest)
        | 'n' => some (.literal '\n', rest)
        | 'r' => some (.literal '\r', rest)
        | 'v' => some (.literal '\x0b', rest)
        | 'A' => some (.look .start, rest)
        | 'z' => some (.look .finish, rest)
        | 'b' => readBoundary? flags rest
        | 'B' => some (.look (.noBoundary (wordSet flags)), rest)
        | '<' => some (.look (.wordStart (wordSet flags)), rest)
        | '>' => some (.look (.wordFinish (wordSet flags)), rest)
        | _ => none

end Atom

/-- A part of a bracketed set, with how deeply it nests. -/
structure SetPart where
  set : CharSet
  depth : Nat

namespace SetPart

def ofItems : List SetPart → SetPart
  | [] => ⟨.none, 0⟩
  | [item] => item
  | items => ⟨.unions (items.map (·.set)),
      1 + items.foldl (fun d item => max d item.depth) 0⟩

end SetPart

inductive SetOp where
  | intersection
  | difference
  | symmetricDifference

/-- A bracketed set that is being read: the items since the last operator, last first, and the
operator with what stands before it. -/
structure SetFrame where
  negated : Bool
  items : List SetPart
  pending : Option (SetPart × SetOp) := none

namespace SetFrame

def push (frame : SetFrame) (part : SetPart) : SetFrame :=
  { frame with items := part :: frame.items }

def value (flags : Flags) (frame : SetFrame) : SetPart :=
  let right := SetPart.ofItems frame.items.reverse
  match frame.pending with
  | none => right
  | some (left, op) =>
      let a := Atom.fold flags left.set
      let b := Atom.fold flags right.set
      let set := match op with
        | .intersection => a.inter b
        | .difference => a.diff b
        | .symmetricDifference => a.symmDiff b
      ⟨set, 1 + max left.depth right.depth⟩

def operate (flags : Flags) (frame : SetFrame) (op : SetOp) : SetFrame :=
  { frame with items := [], pending := some (frame.value flags, op) }

def close? (flags : Flags) (frame : SetFrame) : Option SetPart := do
  let part := frame.value flags
  let set ← Atom.negate? flags frame.negated (Atom.fold flags part.set)
  return ⟨set, part.depth + 1⟩

end SetFrame

def openHyphens (flags : Flags) : Nat → List SetPart → List Char → List SetPart × List Char
  | 0, items, text => (items, text)
  | fuel + 1, items, text =>
      match skip flags text with
      | '-' :: rest => openHyphens flags fuel (⟨.single '-', 0⟩ :: items) rest
      | rest => (items, rest)

/-- Opens a set after its bracket. A closing bracket that comes first is a character. -/
def openSet? (flags : Flags) (text : List Char) : Option (SetFrame × List Char) :=
  let (negated, text) := match skip flags text with
    | '^' :: rest => (true, rest)
    | rest => (false, rest)
  match openHyphens flags text.length [] text with
  | (_, []) => none
  | ([], ']' :: rest) =>
      if (skip flags rest).isEmpty then none else some (⟨negated, [⟨.single ']', 0⟩], none⟩, rest)
  | (items, rest) => some (⟨negated, items, none⟩, rest)

/-- A set named between `[:` and `:]`, after the bracket. -/
def readNamedSet? (flags : Flags) : List Char → Option (Option CharSet × List Char)
  | ':' :: rest =>
      let (negated, rest) := match rest with
        | '^' :: rest => (true, rest)
        | rest => (false, rest)
      match rest.span (· != ':') with
      | (name, ':' :: ']' :: rest) =>
          (NamedSet.ascii? (String.ofList name)).map fun set =>
            (Atom.negate? flags negated (Atom.fold flags set), rest)
      | _ => none
  | _ => none

def readSetAtom? (flags : Flags) : List Char → Option (Atom × List Char)
  | [] => none
  | '\\' :: rest => Atom.readEscape? flags rest
  | c :: rest => some (.literal c, rest)

def setLiteral? (flags : Flags) : Atom → Option Char
  | .literal c => if flags.unicode || c.toNat < 0x80 then some c else none
  | _ => none

def readSetItem? (flags : Flags) (text : List Char) : Option (SetPart × List Char) := do
  let (first, rest) ← readSetAtom? flags text
  let rest := skip flags rest
  let range := match rest with
    | '-' :: after =>
        match skip flags after with
        | ']' :: _ | '-' :: _ => none
        | after => some after
    | _ => none
  match range with
  | some after =>
      let (last, rest) ← readSetAtom? flags after
      let low ← setLiteral? flags first
      let high ← setLiteral? flags last
      guard (low ≤ high)
      return (⟨.between low high, 0⟩, rest)
  | none =>
      match first with
      | .set set => return (⟨set, 0⟩, rest)
      | atom => return (⟨.single (← setLiteral? flags atom), 0⟩, rest)

/-- Reads a bracketed set, given the sets around it, to the end of the outermost one. Every step takes
a character, which bounds the fuel. -/
def readSet? (flags : Flags) : Nat → SetFrame → List SetFrame → List Char →
    Option (SetPart × List Char)
  | 0, _, _, _ => none
  | fuel + 1, frame, outer, text =>
      match skip flags text with
      | [] => none
      | '[' :: rest =>
          match readNamedSet? flags rest with
          | some (some set, rest) => readSet? flags fuel (frame.push ⟨set, 0⟩) outer rest
          | some (none, _) => none
          | none =>
              match openSet? flags rest with
              | some (inner, rest) => readSet? flags fuel inner (frame :: outer) rest
              | none => none
      | ']' :: rest =>
          match frame.close? flags, outer with
          | none, _ => none
          | some part, [] => some (part, rest)
          | some part, around :: outer => readSet? flags fuel (around.push part) outer rest
      | '&' :: '&' :: rest => readSet? flags fuel (frame.operate flags .intersection) outer rest
      | '-' :: '-' :: rest => readSet? flags fuel (frame.operate flags .difference) outer rest
      | '~' :: '~' :: rest =>
          readSet? flags fuel (frame.operate flags .symmetricDifference) outer rest
      | rest =>
          match readSetItem? flags rest with
          | some (part, rest) => readSet? flags fuel (frame.push part) outer rest
          | none => none

/-- A part of a pattern, with how deeply it nests; flags alone are no part to repeat. -/
structure Part where
  pattern : Pattern
  depth : Nat
  isDirective : Bool := false

namespace Part

def maxDepthOf (parts : List Part) : Nat := parts.foldl (fun d part => max d part.depth) 0

def sequence : List Part → Part
  | [] => ⟨.empty, 0, false⟩
  | [part] => part
  | parts => ⟨.sequence (parts.map (·.pattern)), 1 + maxDepthOf parts, false⟩

def choice : List Part → Part
  | [] => ⟨.empty, 0, false⟩
  | [part] => part
  | parts => ⟨.choice (parts.map (·.pattern)), 1 + maxDepthOf parts, false⟩

def iterate (part : Part) (least : Nat) (most : Option Nat) : Part :=
  ⟨part.pattern.times least most, part.depth + 1, false⟩

def ofAtom? (flags : Flags) : Atom → Option Part
  | .literal c =>
      if flags.ignoreCase && !flags.unicode && 0x80 ≤ c.toNat then none
      else some ⟨.set (Atom.fold flags (.single c)), 0, false⟩
  | .set s => some ⟨.set s, 0, false⟩
  | .look l => some ⟨.look l, 0, false⟩
  | .dot =>
      if !flags.unicode then none
      else if flags.dotAll then some ⟨.set .all, 0, false⟩
      else if flags.crlf then
        some ⟨.set ((CharSet.single '\n').union (.single '\r')).compl, 0, false⟩
      else some ⟨.set (CharSet.single '\n').compl, 0, false⟩

end Part

/-- A group that is being read: the alternatives that are complete and the parts of the current one,
last first, the flags that hold again after the group, and whether the group is remembered. -/
structure GroupFrame where
  alternatives : List Part := []
  parts : List Part := []
  flags : Flags
  isRemembered : Bool := false

namespace GroupFrame

def push (frame : GroupFrame) (part : Part) : GroupFrame :=
  { frame with parts := part :: frame.parts }

def alternate (frame : GroupFrame) : GroupFrame :=
  { frame with
    alternatives := Part.sequence frame.parts.reverse :: frame.alternatives
    parts := [] }

def value (frame : GroupFrame) : Part :=
  Part.choice (Part.sequence frame.parts.reverse :: frame.alternatives).reverse

def close (frame : GroupFrame) : Part :=
  let part := frame.value
  ⟨if frame.isRemembered then .group part.pattern else part.pattern, part.depth + 1, false⟩

def repeat? (frame : GroupFrame) (least : Nat) (most : Option Nat) : Option GroupFrame :=
  match frame.parts with
  | [] => none
  | part :: parts =>
      if part.isDirective then none else some { frame with parts := part.iterate least most :: parts }

end GroupFrame

def isBlankChar (c : Char) : Bool := Unicode.isBlank c

def readCount? (text : List Char) : Option (Nat × List Char) :=
  let (digits, rest) := (text.dropWhile isBlankChar).span Char.isDigit
  let value := digits.foldl (fun n c => 10 * n + (c.toNat - '0'.toNat)) 0
  if digits.isEmpty || 1 <<< 32 ≤ value then none else some (value, rest.dropWhile isBlankChar)

def readCounts? (flags : Flags) (text : List Char) : Option (Nat × Option Nat × List Char) := do
  let (least, rest) ← readCount? (skip flags text)
  match rest with
  | '\x7d' :: rest => return (least, some least, rest)
  | ',' :: rest =>
      match skip flags rest with
      | '\x7d' :: rest => return (least, none, rest)
      | rest =>
          let (most, rest) ← readCount? rest
          match rest with
          | '\x7d' :: rest => if least ≤ most then return (least, some most, rest) else none
          | _ => none
  | _ => none

def dropLazy : List Char → List Char
  | '?' :: rest => rest
  | rest => rest

def isNameChar (first : Bool) (c : Char) : Bool :=
  c == '_' || (if first then Unicode.isAlphabetic c
    else c == '.' || c == '[' || c == ']' || Unicode.isAlphanumeric c)

def readGroupName? (text : List Char) : Option (List Char × List Char) :=
  match text.span (· != '>') with
  | (c :: name, _ :: rest) =>
      if isNameChar true c && name.all (isNameChar false) then some (c :: name, rest) else none
  | _ => none

inductive Opening where
  | group (flags : Flags)
  | remembered (name : Option (List Char)) (flags : Flags)
  | directive (flags : Flags)

def readOpening? (flags : Flags) (text : List Char) : Option (Opening × List Char) :=
  match skip flags text with
  | '?' :: 'P' :: '<' :: rest => named rest
  | '?' :: '<' :: '=' :: _ | '?' :: '<' :: '!' :: _ => none
  | '?' :: '<' :: rest => named rest
  | '?' :: rest =>
      match flags.read? true [] rest with
      | some (inner, _, ':' :: rest) => some (.group inner, rest)
      | some (inner, count, ')' :: rest) => if count = 0 then none else some (.directive inner, rest)
      | _ => none
  | rest => some (.remembered none flags, rest)
where
  named (rest : List Char) : Option (Opening × List Char) :=
    (readGroupName? rest).map fun (name, rest) => (.remembered (some name) flags, rest)

/-- Reads a pattern, given the groups around the current one and the names of groups so far. Every step
takes a character, which bounds the fuel. -/
def readParts? : Nat → Flags → GroupFrame → List GroupFrame → List (List Char) → List Char →
    Option Part
  | 0, _, _, _, _, _ => none
  | fuel + 1, flags, frame, outer, names, text =>
      match skip flags text with
      | [] => if outer.isEmpty then some frame.value else none
      | '(' :: rest =>
          match readOpening? flags rest with
          | none => none
          | some (.directive inner, rest) =>
              readParts? fuel inner (frame.push ⟨.empty, 0, true⟩) outer names rest
          | some (.group inner, rest) =>
              readParts? fuel inner { flags } (frame :: outer) names rest
          | some (.remembered name inner, rest) =>
              let group : GroupFrame := { flags, isRemembered := true }
              if name.any names.contains then none
              else readParts? fuel inner group (frame :: outer) (name.toList ++ names) rest
      | ')' :: rest =>
          match outer with
          | [] => none
          | around :: outer =>
              readParts? fuel frame.flags (around.push frame.close) outer names rest
      | '|' :: rest => readParts? fuel flags frame.alternate outer names rest
      | '[' :: rest =>
          match openSet? flags rest with
          | none => none
          | some (set, rest) =>
              match readSet? flags (rest.length + 1) set [] rest with
              | none => none
              | some (part, rest) =>
                  readParts? fuel flags (frame.push ⟨.set part.set, part.depth, false⟩) outer names
                    rest
      | '?' :: rest =>
          (frame.repeat? 0 (some 1)).bind fun frame =>
            readParts? fuel flags frame outer names (dropLazy rest)
      | '*' :: rest =>
          (frame.repeat? 0 none).bind fun frame =>
            readParts? fuel flags frame outer names (dropLazy rest)
      | '+' :: rest =>
          (frame.repeat? 1 none).bind fun frame =>
            readParts? fuel flags frame outer names (dropLazy rest)
      | '\x7b' :: rest =>
          match readCounts? flags rest with
          | none => none
          | some (least, most, rest) =>
              (frame.repeat? least most).bind fun frame =>
                readParts? fuel flags frame outer names (dropLazy (skip flags rest))
      | '\\' :: rest =>
          match Atom.readEscape? flags rest with
          | none => none
          | some (atom, rest) =>
              (Part.ofAtom? flags atom).bind fun part =>
                readParts? fuel flags (frame.push part) outer names rest
      | c :: rest =>
          let atom : Atom := match c with
            | '.' => .dot
            | '^' => .look (if flags.multiLine then .startLine flags.crlf else .start)
            | '$' => .look (if flags.multiLine then .finishLine flags.crlf else .finish)
            | c => .literal c
          (Part.ofAtom? flags atom).bind fun part =>
            readParts? fuel flags (frame.push part) outer names rest

def maxDepth : Nat := 250

def Pattern.read? (text : String) : Option Pattern := do
  let chars := text.toList
  let part ← readParts? (chars.length + 1) {} { flags := {} } [] [] chars
  guard (part.depth ≤ maxDepth && part.pattern.fits)
  return part.pattern

/-- Whether a text holds a match of a pattern; nothing matches a pattern that cannot be read. -/
def isMatch (pattern text : String) : Bool :=
  match Pattern.read? pattern with
  | some p => p.isMatch text.toList
  | none => false

end FeatureFlags.Regex
