import FeatureFlags.Unicode.CaseFolding
import FeatureFlags.Unicode.Table

/-!
The sets of characters that patterns name without a property: digits, blanks and characters of words,
in any script or in ASCII alone, and the sets between `[:` and `:]`.
-/
namespace FeatureFlags.Regex

open Unicode (CharSet)

namespace NamedSet

def asciiDigit : CharSet := .between '0' '9'

def asciiAlpha : CharSet := (CharSet.between 'A' 'Z').union (.between 'a' 'z')

def asciiWord : CharSet := .unions [asciiDigit, asciiAlpha, .single '_']

def asciiBlank : CharSet := (CharSet.between '\t' '\r').union (.single ' ')

def digit (unicode : Bool) : CharSet := if unicode then Unicode.digits else asciiDigit

def blank (unicode : Bool) : CharSet := if unicode then Unicode.blanks else asciiBlank

def word (unicode : Bool) : CharSet := if unicode then Unicode.wordChars else asciiWord

/-- The sets that stand between `[:` and `:]`. -/
def ascii? : String → Option CharSet
  | "alnum" => some (asciiDigit.union asciiAlpha)
  | "alpha" => some asciiAlpha
  | "ascii" => some (.range 0 0x7F)
  | "blank" => some (.unions [.single '\t', .single ' '])
  | "cntrl" => some (.unions [.range 0 0x1F, .range 0x7F 0x7F])
  | "digit" => some asciiDigit
  | "graph" => some (.between '!' '~')
  | "lower" => some (.between 'a' 'z')
  | "print" => some (.between ' ' '~')
  | "punct" =>
      some (.unions [.between '!' '/', .between ':' '@', .between '[' '\x60', .between '\x7b' '~'])
  | "space" => some asciiBlank
  | "upper" => some (.between 'A' 'Z')
  | "word" => some asciiWord
  | "xdigit" => some (.unions [asciiDigit, .between 'A' 'F', .between 'a' 'f'])
  | _ => none

end NamedSet

end FeatureFlags.Regex
