import GatewayProvisioning.Failure
import GatewayProvisioning.Pem.Envelope
import GatewayProvisioning.Signature.Ecdsa
import GatewayProvisioning.Signature.Rsa
import GatewayProvisioning.Token.Claims

/-!
Tokens of administrators, signed with a private key from a PEM file.
-/

namespace GatewayProvisioning.Token

open Signature

/-- How tokens of administrators are signed. -/
inductive AdminAlgorithm where
  | rs256
  | es256
  deriving DecidableEq, Repr

namespace AdminAlgorithm

/-- An algorithm among those of all tokens. -/
def general : AdminAlgorithm → Algorithm
  | .rs256 => .rs256
  | .es256 => .es256

/-- The algorithm of a name of either case, with blanks around it. -/
def ofName (name : String) : Except Failure AdminAlgorithm :=
  let upper := Text.asciiUppercase (Text.trim name)
  if upper = "RS256" then .ok .rs256
  else if upper = "ES256" then .ok .es256
  else .error (.badCredential (.unknownAlgorithm upper))

end AdminAlgorithm

/-! ## Keys -/

/-- The families of keys. -/
inductive KeyFamily where
  | curve
  | rsa
  | edwards
  deriving DecidableEq, Repr

/-- The family that an object identifier names. -/
def KeyFamily.ofTree? : Der.Tree → Option KeyFamily
  | .objectId arcs =>
    if arcs = [1, 2, 840, 10045, 2, 1] then some .curve
    else if arcs = [1, 2, 840, 113549, 1, 1, 1] then some .rsa
    else if arcs = [1, 3, 101, 112] then some .edwards
    else none
  | _ => none

/-- The content of a string of bits or octets. -/
def stringOfTree? : Der.Tree → Option Bytes
  | .bits content => some content
  | .octets content => some content
  | _ => none

/-- The labels of keys that name their family inside. -/
def wrappedLabels : List String :=
  ["PRIVATE KEY", "PUBLIC KEY", "CERTIFICATE"]

/-- The labels of RSA keys by themselves. -/
def bareLabels : List String :=
  ["RSA PRIVATE KEY", "RSA PUBLIC KEY"]

/-- The text of the key for an algorithm in a PEM file. Whether it is a usable key shows only when
something is signed. -/
def keyText (algorithm : AdminAlgorithm) (pem : Bytes) : Except Failure Bytes := do
  let fail : Failure := .badCredential (.badKey algorithm.general.name)
  let some envelope := Pem.envelope? pem | throw fail
  let some trees := Der.ofBytes? envelope.content | throw fail
  if bareLabels.contains envelope.label then
    match algorithm with
    | .rs256 => return envelope.content
    | .es256 => throw fail
  else if wrappedLabels.contains envelope.label then
    match algorithm, Der.findFirstIn? KeyFamily.ofTree? trees with
    | .rs256, some .rsa =>
      match Der.findFirstIn? stringOfTree? trees with
      | some content => return content
      | none => throw (.badCredential (.noKeyString algorithm.general.name))
    | .es256, some .curve =>
      if envelope.label = "PRIVATE KEY" then return envelope.content else throw fail
    | _, _ => throw fail
  else throw fail

/-- The signature of a message with the key of a text. -/
def signatureOf (algorithm : AdminAlgorithm) (key message : Bytes) : Except KeyFault Bytes :=
  match algorithm with
  | .rs256 => do return (← RsaKey.ofDer key).sign message
  | .es256 => do return (← EcdsaKey.ofDer key).sign message

/-! ## Tokens -/

/-- The claims of an administrator at a time. -/
def adminClaims (issuer : String) (span : Duration) (now : Int) : AdminClaims where
  issuer := issuer
  issuedAt := now
  notBefore := now
  expires := expiry now span

/-- Signs a token with the key of a PEM file. -/
def signAdmin (algorithm : AdminAlgorithm) (pem : Bytes) (issuer : String) (span : Duration)
    (now : Int) : Except Failure String := do
  if issuer.isEmpty then throw (.badCredential .emptyIssuer)
  let key ← keyText algorithm pem
  let text := signedText algorithm.general (adminClaims issuer span now).json
  match signatureOf algorithm key (Utf8.encode text) with
  | .ok signature => return withSignature text signature
  | .error fault => throw (.badCredential (.signing fault))

end GatewayProvisioning.Token
