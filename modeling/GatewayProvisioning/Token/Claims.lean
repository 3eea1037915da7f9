import GatewayProvisioning.Json.Basic
import GatewayProvisioning.Text.Base64

/-!
Signed tokens: a header and claims in JSON, each in base64, with a dot between them, and a signature
of that text after another dot.
-/

namespace GatewayProvisioning

/-- A span of time. -/
structure Duration where
  seconds : Nat
  nanoseconds : Nat := 0
  deriving DecidableEq, Repr

namespace Token

/-- How tokens are signed. -/
inductive Algorithm where
  | hs256
  | rs256
  | es256
  deriving DecidableEq, Repr

/-- The name of an algorithm. -/
def Algorithm.name : Algorithm → String
  | .hs256 => "HS256"
  | .rs256 => "RS256"
  | .es256 => "ES256"

/-- The header of a token. -/
def header (algorithm : Algorithm) : Json :=
  .record [("typ", .text "JWT"), ("alg", .text algorithm.name)]

/-- The greatest time that a claim can hold. -/
def lastTime : Int := 0x7FFFFFFFFFFFFFFF

/-- The time after a span; it never passes the last time. -/
def expiry (now : Int) (span : Duration) : Int :=
  min (now + min (span.seconds : Int) lastTime) lastTime

/-- The claims of a token that a consumer signs. -/
structure ConsumerClaims where
  account : String
  issuer : String
  audience : Option String
  issuedAt : Int
  expires : Option Int
  deriving DecidableEq, Repr

/-- A member of a record, if it has a value. -/
def memberIf {α : Type} (name : String) (write : α → Json) : Option α → List (String × Json)
  | some x => [(name, write x)]
  | none => []

/-- The claims as a JSON value. -/
def ConsumerClaims.json (c : ConsumerClaims) : Json :=
  .record <|
    [("account", .text c.account), ("iss", .text c.issuer)] ++ memberIf "aud" .text c.audience ++
      [("iat", .int c.issuedAt)] ++ memberIf "exp" .int c.expires

/-- The claims of a token of an administrator. -/
structure AdminClaims where
  issuer : String
  issuedAt : Int
  notBefore : Int
  expires : Int
  deriving DecidableEq, Repr

/-- The claims as a JSON value. -/
def AdminClaims.json (c : AdminClaims) : Json :=
  .record [("iss", .text c.issuer), ("iat", .int c.issuedAt), ("nbf", .int c.notBefore),
    ("exp", .int c.expires)]

/-- A JSON value as a part of a token. -/
def part (v : Json) : String :=
  Base64.encodeUrl (Utf8.encode v.compact)

/-- The text that is signed. -/
def signedText (algorithm : Algorithm) (claims : Json) : String :=
  part (header algorithm) ++ "." ++ part claims

/-- A token from the text that is signed and its signature. -/
def withSignature (text : String) (signature : Bytes) : String :=
  text ++ "." ++ Base64.encodeUrl signature

end Token

end GatewayProvisioning
