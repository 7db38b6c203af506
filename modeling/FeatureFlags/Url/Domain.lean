import FeatureFlags.Unicode.Direction
import FeatureFlags.Unicode.Joining
import FeatureFlags.Unicode.Normal
import FeatureFlags.Url.Domain.Punycode
import FeatureFlags.Url.Domain.Table

/-!
Names of hosts that are looked up. A name is brought to one form, part by part; parts with characters
outside ASCII are then written in ASCII. Parts that cannot be read the same way by all are refused: those
that begin with a mark, that join letters which do not join, or that mix directions.
-/
namespace FeatureFlags.Url

def splitAt (separator : Char → Bool) : List Char → List (List Char)
  | [] => [[]]
  | c :: rest =>
      if separator c then [] :: splitAt separator rest
      else match splitAt separator rest with
        | part :: parts => (c :: part) :: parts
        | [] => [[c]]

namespace Domain

open Unicode (CharSet)

def readTarget (text : List Char) : List (List Char) :=
  match text.span (· != '-') with
  | (first, _ :: last) =>
      let first := CharSet.hexNat first
      (List.range (CharSet.hexNat last + 1 - first)).map fun i => [Char.ofNat (first + i)]
  | (all, []) => [(splitAt (· == '+') all).map fun point => Char.ofNat (CharSet.hexNat point)]

/-- Reads a run of characters: where it starts, and what its characters stand for. -/
def readRun (text : List Char) : Nat × List (List Char) :=
  match (CharSet.words text).filter (· != []) with
  | start :: targets => (CharSet.hexNat start, targets.flatMap readTarget)
  | [] => (0, [])

def mappings : List (Nat × List (List Char)) :=
  mappingLines.flatMap fun line => (splitAt (· == ';') line.toList).map readRun

def mapping? (c : Char) : Option (List Char) :=
  mappings.findSome? fun (start, targets) =>
    if start ≤ c.toNat then targets[c.toNat - start]? else none

/-- The last letter of a word in Greek, which is kept apart from the letter that it folds to. -/
def finalSigma : Char := 'ς'

def mapped? (c : Char) : Option (List Char) :=
  if ignored.contains c then some []
  else
    match mapping? c with
    | some text => some text
    | none =>
        if disallowed.contains c then none
        else some [if c = finalSigma then c else Unicode.fold c]

def isAscii (text : List Char) : Bool := text.all (·.toNat < 0x80)

/-- An ASCII character that stands in no name. -/
def isForbidden (c : Char) : Bool :=
  c.toNat ≤ 0x20 || c.toNat == 0x7F || "%#/:<>?@[\\]^|".toList.contains c

def marks : CharSet :=
  (CharSet.ofCategories ["Mn", "Mc", "Me"]).union
    (.ofLines ["1acf-1add 1ae0-1aeb 10efa-10efb 11b60-11b67 1e6e3 1e6e6 1e6ee-1e6ef 1e6f5"])

/-- The rank of marks that suppress a vowel. -/
def vowelKiller : Nat := 9

def joins (set : CharSet) (text : List Char) : Bool :=
  (text.dropWhile Unicode.Joining.transparent.contains).head?.any
    (set.union Unicode.Joining.onBothSides).contains

/-- Whether joiners and non-joiners make a difference where they stand, given what is before, last
first. -/
def joinersFit (before : List Char) : List Char → Bool
  | [] => true
  | c :: rest =>
      let isJoiner := c = '\u200D'
      let isNonJoiner := c = '\u200C'
      let killed := before.head?.any fun d => Unicode.Normal.rank d.toNat == vowelKiller
      let between := joins Unicode.Joining.after before && joins Unicode.Joining.before rest
      ((!isJoiner && !isNonJoiner) || killed || (isNonJoiner && between)) &&
        joinersFit (c :: before) rest

/-- A part as it is read, and as it is written in ASCII. -/
structure Label where
  text : List Char
  ascii : List Char

def marker : List Char := "xn--".toList

/-- The text of a part that is written in ASCII, after its marker; there is one way to write it. -/
def decoded? (text : List Char) : Option (List Char) := do
  let decoded ← Punycode.decode? text
  guard (!isAscii decoded && !marker.isPrefixOf decoded &&
    decoded.all (fun c => mapped? c = some [c]) && Unicode.Normal.form decoded = decoded)
  return decoded

def read? (text : List Char) : Option Label :=
  if isAscii text then
    if marker.isPrefixOf text then
      (decoded? (text.drop marker.length)).map fun decoded => ⟨decoded, text⟩
    else some ⟨text, text⟩
  else if marker.isPrefixOf text then none
  else some ⟨text, marker ++ Punycode.encode text⟩

def Label.isSound (label : Label) : Bool :=
  !label.text.any isForbidden && !label.text.head?.any marks.contains && joinersFit [] label.text

inductive Direction where
  | left
  | right
  | european
  | arabic
  | attached
  | neutral
  deriving DecidableEq

def direction (c : Char) : Direction :=
  if Unicode.Direction.rightToLeft.contains c then .right
  else if Unicode.Direction.europeanDigits.contains c then .european
  else if Unicode.Direction.arabicDigits.contains c then .arabic
  else if Unicode.Direction.attached.contains c then .attached
  else if Unicode.Direction.neutral.contains c then .neutral
  else .left

def runsOneWay (label : List Direction) : Bool :=
  let last := (label.reverse.dropWhile (· = .attached)).head?
  match label.head? with
  | none => true
  | some .left =>
      label.all (fun d => d ≠ .right && d ≠ .arabic) && (last = some .left || last = some .european)
  | some .right =>
      label.all (· ≠ .left) && last ≠ some .neutral &&
        !(label.contains .european && label.contains .arabic)
  | some _ => false

/-- Whether the parts of a name run one way each; it matters if something runs from right to left. -/
def directionsFit (labels : List Label) : Bool :=
  let directions := labels.map fun label => label.text.map direction
  let matters := directions.any fun label => label.contains .right || label.contains .arabic
  !matters || directions.all runsOneWay

def ofText? (text : List Char) : Option (List Char) := do
  let mapped ← text.mapM mapped?
  let labels ← (splitAt (· == '.') (Unicode.Normal.form mapped.flatten)).mapM read?
  guard (labels.all Label.isSound && directionsFit labels)
  return ['.'].intercalate (labels.map (·.ascii))

end Domain

end FeatureFlags.Url
