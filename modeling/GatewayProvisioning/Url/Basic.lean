import GatewayProvisioning.Url.Host

/-!
URLs by their parts, and their written form.
-/

namespace GatewayProvisioning

/-- The path of a URL: segments after slashes, or a text that has none. -/
inductive Url.Path where
  | segments (names : List String)
  | words (text : String)
  deriving DecidableEq, Repr

/-- A URL. A port that its scheme implies is left out. -/
structure Url where
  scheme : String
  username : String := ""
  password : String := ""
  host : Option Url.Host := none
  port : Option Nat := none
  path : Url.Path
  query : Option String := none
  fragment : Option String := none
  deriving DecidableEq, Repr

namespace Url

/-- The port that a scheme implies. -/
def defaultPort? (scheme : String) : Option Nat :=
  if scheme = "http" || scheme = "ws" then some 80
  else if scheme = "https" || scheme = "wss" then some 443
  else if scheme = "ftp" then some 21
  else none

/-- Whether a scheme is well known. -/
def isSpecial (scheme : String) : Bool :=
  (defaultPort? scheme).isSome || scheme == "file"

/-- The port of a URL, written or implied. -/
def effectivePort? (u : Url) : Option Nat :=
  u.port <|> defaultPort? u.scheme

/-- The written form of a path. -/
def Path.write : Path → String
  | .segments names => String.join (names.map ("/" ++ ·))
  | .words text => text

/-- The written form of user name and password. -/
def writeUser (u : Url) : String :=
  if u.username.isEmpty && u.password.isEmpty then ""
  else u.username ++ (if u.password.isEmpty then "" else ":" ++ u.password) ++ "@"

/-- The written form of a port. -/
def writePort (u : Url) : String :=
  match u.port with
  | some p => ":" ++ Decimal.ofNat p
  | none => ""

/-- The written form of the part between scheme and path. -/
def writeAuthority (u : Url) : String :=
  match u.host with
  | some host => "//" ++ u.writeUser ++ host.write ++ u.writePort
  | none => if u.scheme == "file" then "//" else ""

/-- A part after its mark, if there is one. -/
def writeAfter (mark : String) : Option String → String
  | some text => mark ++ text
  | none => ""

/-- The written form of a URL. -/
def write (u : Url) : String :=
  u.scheme ++ ":" ++ u.writeAuthority ++ u.path.write ++ writeAfter "?" u.query ++
    writeAfter "#" u.fragment

/-- A URL without user name and password. -/
def withoutUser (u : Url) : Url :=
  { u with username := "", password := "" }

end Url

end GatewayProvisioning
