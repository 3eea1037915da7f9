import GatewayProvisioning.Url.Basic

/-!
Reading URLs. Blanks and controls around a URL and tabs and line ends inside it do not count. Under a
well-known scheme a backslash is a slash, the number of slashes before the host is free, and a host
must be there.
-/

namespace GatewayProvisioning.Url

/-! ## Which bytes stay as they are -/

/-- Whether a byte is printable and none of the given characters. -/
def keeps (escaped : List Char) (b : UInt8) : Bool :=
  Host.isPrintable b && !escaped.contains (Char.ofNat b.toNat)

/-- The characters that are escaped in a fragment. -/
def fragmentEscapes : List Char :=
  [' ', '"', '<', '>', Char.ofNat 0x60]

/-- The characters that are escaped in a path. -/
def pathEscapes : List Char :=
  fragmentEscapes ++ ['#', '?', Char.ofNat 0x7B, Char.ofNat 0x7D]

/-- The characters that are escaped in user name and password. -/
def userEscapes : List Char :=
  pathEscapes ++ ['/', ':', ';', '=', '@', '[', '\\', ']', '^', '|']

/-- The characters that are escaped in a query. -/
def queryEscapes (special : Bool) : List Char :=
  [' ', '"', '#', '<', '>'] ++ (if special then ['\''] else [])

/-- A part with escapes in place of the given characters. -/
def escape (escaped : List Char) (cs : List Char) : String :=
  String.ofList (percentEncode (keeps escaped) (Utf8.encodeChars cs))

/-! ## Authority -/

/-- Whether a character ends the authority. -/
def endsAuthority (special : Bool) (c : Char) : Bool :=
  c == '/' || c == '?' || c == '#' || (special && c == '\\')

/-- User name and password of the part before the last `@`. -/
def readUser (cs : List Char) : String × String :=
  match Text.splitFirst? (· == ':') cs with
  | some (name, password) => (escape userEscapes name, escape userEscapes password)
  | none => (escape userEscapes cs, "")

/-- The host that a text begins with; a colon ends it unless it stands in brackets. -/
def takeHost (special inside : Bool) : List Char → List Char × List Char
  | [] => ([], [])
  | c :: cs =>
    if endsAuthority special c || (c == ':' && !inside) then ([], c :: cs)
    else
      let inside := if c == '[' then true else if c == ']' then false else inside
      let (host, rest) := takeHost special inside cs
      (c :: host, rest)

/-- The port after a host, and what follows it. -/
def readPort (cs : List Char) : Except Fault (Option Nat × List Char) :=
  let ds := cs.takeWhile Text.isDigit
  let rest := cs.dropWhile Text.isDigit
  if 65535 < Text.decimalValue ds then .error .badPort
  else if rest.head?.any fun c => !endsAuthority true c then .error .badPort
  else .ok (if ds.isEmpty then none else some (Text.decimalValue ds), rest)

/-- The host of a scheme. -/
def readHost (special : Bool) (cs : List Char) : Except Fault (Option Host) :=
  if special then if cs.isEmpty then .error .emptyHost else some <$> Host.ofSpecial cs
  else if cs.isEmpty then .ok none
  else some <$> Host.ofOther cs

/-- The parts of an authority. -/
structure Authority where
  username : String
  password : String
  host : Option Host
  port : Option Nat

/-- Reads an authority; a port that is written stays in it even if the scheme implies it. -/
def readAuthority (special : Bool) (cs : List Char) : Except Fault (Authority × List Char) := do
  let authority := cs.takeWhile fun c => !endsAuthority special c
  let after := cs.dropWhile fun c => !endsAuthority special c
  let (user, cs) :=
    match Text.splitLast? (· == '@') authority with
    | some (user, hostAndPort) => (user, hostAndPort ++ after)
    | none => ([], cs)
  let (username, password) := readUser user
  let (hostText, rest) := takeHost special false cs
  let host ← readHost special hostText
  match rest with
  | ':' :: rest => do
    if host.isNone then throw .emptyHost
    let (port, rest) ← readPort rest
    return ({ username, password, host, port }, rest)
  | rest => do
    if host.isNone && !(username.isEmpty && password.isEmpty) then throw .emptyHost
    return ({ username, password, host, port := none }, rest)

/-! ## Path, query and fragment -/

/-- The dot segments, with escaped dots. -/
def isDot (cs : List Char) : Bool :=
  let s := Text.asciiLowercase (String.ofList cs)
  s == "." || s == "%2e"

/-- The double dot segments, with escaped dots. -/
def isDoubleDot (cs : List Char) : Bool :=
  let s := Text.asciiLowercase (String.ofList cs)
  s == ".." || s == ".%2e" || s == "%2e." || s == "%2e%2e"

/-- The segments of a path after those before it, which are given backwards. A dot stands for nothing
and a double dot takes a segment away, but a path that ends in one ends in a slash. -/
def resolve (before : List String) : List (List Char) → List String
  | [] => before.reverse
  | [last] =>
    if isDoubleDot last then ("" :: before.drop 1).reverse
    else if isDot last then ("" :: before).reverse
    else (escape pathEscapes last :: before).reverse
  | segment :: rest =>
    if isDoubleDot segment then resolve (before.drop 1) rest
    else if isDot segment then resolve before rest
    else resolve (escape pathEscapes segment :: before) rest

/-- Splits a path at its slashes. -/
def splitPath (special : Bool) (cs : List Char) : List (List Char) :=
  Text.splitWhere (fun c => c == '/' || (special && c == '\\')) cs

/-- The path of a URL with an authority. -/
def readPath (special : Bool) (cs : List Char) : Path :=
  match cs with
  | [] => if special then .segments [""] else .segments []
  | c :: rest =>
    if c == '/' || (special && c == '\\') then .segments (resolve [] (splitPath special rest))
    else .segments (resolve [] (splitPath special cs))

/-- Splits off query and fragment. -/
def splitQuery (cs : List Char) : List Char × Option (List Char) × Option (List Char) :=
  let (before, fragment) :=
    match Text.splitFirst? (· == '#') cs with
    | some (before, fragment) => (before, some fragment)
    | none => (cs, none)
  match Text.splitFirst? (· == '?') before with
  | some (path, query) => (path, some query, fragment)
  | none => (before, none, fragment)

/-- A URL with the query and fragment of its rest. -/
def finish (special : Bool) (rest : List Char) (build : List Char → Url) : Url :=
  let (path, query, fragment) := splitQuery rest
  { build path with
    query := query.map (escape (queryEscapes special))
    fragment := fragment.map (escape fragmentEscapes) }

/-! ## Schemes -/

/-- Whether a character may stand inside a scheme. -/
def isSchemeChar (c : Char) : Bool :=
  ('a' ≤ c && c ≤ 'z') || Text.isDigit c || c == '+' || c == '-' || c == '.'

/-- The scheme of a URL, in lower case, and what follows its colon. -/
def readScheme? (cs : List Char) : Option (String × List Char) := do
  let (scheme, rest) ← Text.splitFirst? (· == ':') cs
  let lower := scheme.map Text.asciiLower
  let first ← lower.head?
  if 'a' ≤ first && first ≤ 'z' && lower.all isSchemeChar then
    some (String.ofList lower, rest)
  else none

/-- A URL with an authority. -/
def readAfterSlashes (scheme : String) (special : Bool) (cs : List Char) : Except Fault Url := do
  let (authority, rest) ← readAuthority special cs
  let port := if authority.port = defaultPort? scheme then none else authority.port
  return finish special rest fun path =>
    { scheme, username := authority.username, password := authority.password
      host := authority.host, port, path := readPath special path }

/-- Whether a segment names a drive. -/
def isDrive : List Char → Bool
  | [c, d] =>
    (('a' ≤ c && c ≤ 'z') || ('A' ≤ c && c ≤ 'Z')) && (d == ':' || d == Char.ofNat 0x7C)
  | _ => false

/-- Whether a path begins with a drive. -/
def startsWithDrive (cs : List Char) : Bool :=
  match (splitPath true (cs.drop 1)).dropWhile fun s => isDot s || isDoubleDot s with
  | segment :: _ => isDrive segment
  | [] => false

/-- A URL of a file. It has a host only after two slashes, never a port, and a path that begins with
a drive has no host. -/
def readFile (cs : List Char) : Except Fault Url := do
  let isSlash (c : Char) : Bool := c == '/' || c == '\\'
  match cs with
  | a :: b :: rest =>
    if isSlash a && isSlash b then
      let hostText := rest.takeWhile fun c => !endsAuthority true c
      let after := rest.dropWhile fun c => !endsAuthority true c
      if isDrive hostText || hostText.isEmpty then
        return finish true (if hostText.isEmpty then after else rest) fun path =>
          { scheme := "file", path := readPath true path }
      let host ← Host.ofSpecial hostText
      let (path, _, _) := splitQuery after
      let kept := if host == .name "localhost" || startsWithDrive path then none else some host
      return finish true after fun path => { scheme := "file", host := kept, path := readPath true path }
    else return finish true cs fun path => { scheme := "file", path := readPath true path }
  | _ => return finish true cs fun path => { scheme := "file", path := readPath true path }

/-- A URL of a scheme that is not well known. -/
def readOther (scheme : String) (cs : List Char) : Except Fault Url :=
  match cs with
  | '/' :: '/' :: rest => readAfterSlashes scheme false rest
  | '/' :: _ => .ok (finish false cs fun path => { scheme, path := readPath false path })
  | _ => .ok (finish false cs fun path => { scheme, path := .words (escape [] path) })

/-- The characters of a text that count in a URL. -/
def significant (s : String) : List Char :=
  (Text.dropBothWhile (fun c => c.toNat ≤ 0x20) s.toList).filter fun c =>
    !(c == '\t' || c == '\n' || c == '\r')

/-- The URL of a text. -/
def parse (s : String) : Except Fault Url :=
  match readScheme? (significant s) with
  | none => .error .relative
  | some (scheme, rest) =>
    if scheme = "file" then readFile rest
    else if isSpecial scheme then
      readAfterSlashes scheme true (rest.dropWhile fun c => c == '/' || c == '\\')
    else readOther scheme rest

end GatewayProvisioning.Url
