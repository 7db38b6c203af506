import FeatureFlags.Unicode.Age
import FeatureFlags.Unicode.Property
import FeatureFlags.Unicode.Script
import FeatureFlags.Unicode.Segmentation

/-!
Sets of characters by the names of their properties. Names are compared loosely: case, blanks,
underscores, hyphens and a leading `is` do not count.
-/
namespace FeatureFlags.Unicode

def ScriptRow.set (row : ScriptRow) : CharSet := .ofLines row.own

def ScriptRow.use (row : ScriptRow) : CharSet :=
  (row.set.union (.ofLines row.shared)).diff (.ofLines row.given)

def ofAge (version : String) : CharSet :=
  let earlier := ageTable.takeWhile (·.1 != version)
  let added := (ageTable.drop earlier.length).take 1
  .ofLines ((earlier ++ added).flatMap (·.2))

def looseName (name : List Char) : List Char :=
  let dropped := match name with
    | 'i' :: 's' :: rest | 'I' :: 's' :: rest | 'i' :: 'S' :: rest | 'I' :: 'S' :: rest => rest
    | _ => name
  let loose := (dropped.filter fun c => c.toNat < 0x80 && c != ' ' && c != '_' && c != '-').map
    Char.toLower
  if dropped.length < name.length && loose == ['c'] then ['i', 's', 'c'] else loose

def isNamed (loose : List Char) (names : List String) : Bool :=
  names.any fun name => looseName name.toList == loose

def row? (table : List PropertyRow) (loose : List Char) : Option CharSet :=
  (table.find? (isNamed loose ·.names)).map (·.set)

def property? (loose : List Char) : Option CharSet := row? propertyTable loose

def category? (loose : List Char) : Option CharSet :=
  if loose == "any".toList then some .all
  else if loose == "ascii".toList then some (.range 0 0x7F)
  else if loose == "assigned".toList then some .assigned
  else
    match categoryGroups.find? (isNamed loose ·.1) with
    | some group => some (.ofCategories group.2)
    | none => (categoryNames.find? (isNamed loose ·.2)).map fun row => .ofCategories [row.1]

def script? (loose : List Char) : Option ScriptRow := scriptTable.find? (isNamed loose ·.names)

def age? (loose : List Char) : Option CharSet :=
  (ageTable.find? fun row =>
    let digits := row.1.toList.filter (· != '.')
    loose == row.1.toList || loose == 'v' :: digits).map fun row => ofAge row.1

def graphemeClass? (loose : List Char) : Option CharSet :=
  if loose == "lv".toList then some openSyllables
  else if loose == "lvt".toList then some closedSyllables
  else row? graphemeTable loose

/-- The set that a name alone stands for: a property, a category or a script, in this order. Three
short names stand for categories only. -/
def named? (name : List Char) : Option CharSet :=
  let loose := looseName name
  let short := loose == "cf".toList || loose == "sc".toList || loose == "lc".toList
  match if short then none else property? loose with
  | some set => some set
  | none =>
      match category? loose with
      | some set => some set
      | none => (script? loose).map (·.set)

/-- The set of characters whose property of the given name has the given value. -/
def valued? (name value : List Char) : Option CharSet :=
  let name := looseName name
  let value := looseName value
  if isNamed name ["gc", "General_Category"] then category? value
  else if isNamed name ["sc", "Script"] then (script? value).map (·.set)
  else if isNamed name ["scx", "Script_Extensions"] then (script? value).map (·.use)
  else if isNamed name ["age"] then age? value
  else if isNamed name ["GCB", "Grapheme_Cluster_Break"] then graphemeClass? value
  else if isNamed name ["WB", "Word_Break"] then row? wordBreakTable value
  else if isNamed name ["SB", "Sentence_Break"] then row? sentenceTable value
  else none

def digits : CharSet := .ofCategories ["Nd"]

def blanks : CharSet := (property? "whitespace".toList).getD .none

def letters : CharSet := (property? "alphabetic".toList).getD .none

/-- Characters of words: letters, marks, digits, connectors and joiners. -/
def wordChars : CharSet :=
  .unions [letters, .ofCategories ["Mn", "Mc", "Me", "Nd", "Pc"], .range 0x200C 0x200D]

def newLetters : CharSet :=
  .ofLines
    ["88f c5c cdc a7ce-a7cf a7d2 a7d4 a7f1 10940-10959 10ec5-10ec7 10efa-10efb 11b60-11b67",
     "11db0-11ddb 16ea0-16eb8 16ebb-16ed3 16ff2-16ff6 187f8-187ff 18d09-18d1e 18d80-18df2",
     "1e6c0-1e6de 1e6e0-1e6f5 1e6fe-1e6ff 2b73a-2b73f 2cea2-2cead 323b0-33479"]

def newDigits : CharSet := .range 0x11DE0 0x11DE9

def isAlphabetic (c : Char) : Bool := letters.contains c || newLetters.contains c

def isAlphanumeric (c : Char) : Bool :=
  isAlphabetic c || (CharSet.ofCategories ["Nd", "Nl", "No"]).contains c || newDigits.contains c

end FeatureFlags.Unicode
