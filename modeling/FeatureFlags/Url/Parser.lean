import FeatureFlags.Url.Basic

/-!
Reading absolute URLs. Blanks and control characters around a text do not count, nor do tabs and line
ends in it. A scheme with rules of its own takes backslashes for slashes and any number of slashes
before a host.
-/
namespace FeatureFlags.Url

def isEdge (c : Char) : Bool := c.toNat ≤ 0x20

def clean (text : List Char) : List Char :=
  (((text.dropWhile isEdge).reverse.dropWhile isEdge).reverse).filter (!isIgnored ·)

def scheme? (text : List Char) : Option (String × List Char) :=
  match text.span fun c => c.isAlphanum || isOneOf "+-." c with
  | (first :: letters, ':' :: rest) =>
      if first.isAlpha then some (String.ofList ((first :: letters).map Char.toLower), rest) else none
  | _ => none

def splitFirst (mark : Char) (text : List Char) : List Char × Option (List Char) :=
  match text.span (· != mark) with
  | (before, _ :: after) => (before, some after)
  | (before, []) => (before, none)

def splitLast (mark : Char) (text : List Char) : Option (List Char × List Char) :=
  match splitFirst mark text.reverse with
  | (after, some before) => some (before.reverse, after.reverse)
  | (_, none) => none

def isSlash (special : Bool) (c : Char) : Bool := c == '/' || (special && c == '\\')

/-- The segments of a path, of which the first slash is no part. -/
def segmentsOf (special : Bool) (path : List Char) : List String :=
  let path := match path with
    | c :: rest => if isSlash special c then rest else c :: rest
    | [] => []
  let written := (splitAt (isSlash special) path).map (String.ofList ∘ percentEncode inPathSet)
  goTo (written.dropLast.foldl (goTo · · false) []) (written.getLast?.getD "") true

def port? (scheme : String) (text : List Char) : Option (Option Nat × List Char) :=
  match text.span Char.isDigit with
  | (digits, rest) => do
      let n ← Host.valueIn? 10 digits
      if n < 1 <<< 16 ∧ (rest = [] ∨ rest.head? = some '\\') then
        some (if digits = [] ∨ defaultPort? scheme = some n then none else some n, rest)
      else none

def splitHost (text : List Char) : List Char × List Char :=
  match text with
  | '[' :: _ =>
      let (inside, after) := text.span (· != ']')
      let (more, rest) := after.span (· != ':')
      (inside ++ more, rest)
  | _ => text.span (· != ':')

/-- Reads user, host and port into a URL; what stands after the port is given back. An authority that
something follows is no empty user alone, and a user needs a host. -/
def authority? (url : Url) (isFollowed : Bool) (text : List Char) : Option (Url × List Char) := do
  let special := isSpecial url.scheme
  guard (!(isFollowed && text = ['@']))
  let (user, text) := (splitLast '@' text).getD ([], text)
  let (username, password) := splitFirst ':' user
  let password := password.getD []
  let (name, rest) := splitHost text
  guard (name ≠ [] || !(special || username ≠ [] || password ≠ [] || rest ≠ []))
  let host ← if special then Host.special? name else Host.plain? name
  let (port, rest) ← match rest with
    | ':' :: rest => port? url.scheme rest
    | rest => some (none, rest)
  return ({ url with
    username := String.ofList (percentEncode inUserSet username)
    password := String.ofList (percentEncode inUserSet password)
    host, port }, rest)

def afterSlashes? (url : Url) (text : List Char) : Option Url := do
  let special := isSpecial url.scheme
  let (authority, path) := text.span (!isSlash special ·)
  let isFollowed := path ≠ [] || url.query.isSome || url.fragment.isSome
  let (url, rest) ← authority? url isFollowed authority
  let path := rest ++ path
  return { url with path := .segments (if path = [] ∧ !special then [] else segmentsOf special path) }

def isDrive : List Char → Bool
  | [letter, mark] => letter.isAlpha && (mark == ':' || mark == '|')
  | _ => false

/-- The segments of a file's path, which do not begin with empty ones. -/
def fileSegments (path : List Char) : Path :=
  match (segmentsOf true path).dropWhile (· = "") with
  | [] => .segments [""]
  | parts => .segments parts

/-- Reads what stands after the scheme of files. The host of this machine is none. -/
def file? (url : Url) (text : List Char) : Option Url :=
  match text with
  | a :: b :: rest =>
      if isSlash true a ∧ isSlash true b then
        let (name, path) := rest.span (!isSlash true ·)
        if name = [] ∨ isDrive name then some { url with path := fileSegments rest }
        else (Host.special? name).map fun host =>
          { url with
            host := if host = .name "localhost" then none else some host
            path := fileSegments path }
      else some { url with path := fileSegments text }
  | _ => some { url with path := fileSegments text }

def body? (url : Url) (text : List Char) : Option Url :=
  if url.scheme = "file" then file? url text
  else if isSpecial url.scheme then afterSlashes? url (text.dropWhile (isSlash true))
  else match text with
    | '/' :: '/' :: rest => afterSlashes? url rest
    | '/' :: _ => some { url with path := .segments (segmentsOf false text) }
    | _ => some { url with path := .text (String.ofList (percentEncode isUnprintable text)) }

def parse? (text : String) : Option Url := do
  let (scheme, rest) ← scheme? (clean text.toList)
  let (rest, fragment) := splitFirst '#' rest
  let (body, query) := splitFirst '?' rest
  let set := if isSpecial scheme then inSpecialQuerySet else inQuerySet
  body? {
    scheme
    path := .text ""
    query := query.map (String.ofList ∘ percentEncode set)
    fragment := fragment.map (String.ofList ∘ percentEncode inFragmentSet) } body

end FeatureFlags.Url
