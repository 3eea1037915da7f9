import GatewayProvisioning.Der.Element
import GatewayProvisioning.Digest.Hmac
import GatewayProvisioning.Signature.Curve
import GatewayProvisioning.Signature.Fault

/-!
Signatures on the curve: two numbers that depend on the digest of a message, the private key and a
number that is used only once.
-/

namespace GatewayProvisioning.Signature

/-- A private key: a number between zero and the order of the curve. -/
structure EcdsaKey where
  secret : Nat
  deriving DecidableEq, Repr

namespace EcdsaKey

/-- The object identifier of keys on curves, and that of this curve. -/
def algorithmId : Bytes :=
  [0x06, 0x07, 0x2A, 0x86, 0x48, 0xCE, 0x3D, 0x02, 0x01,
    0x06, 0x08, 0x2A, 0x86, 0x48, 0xCE, 0x3D, 0x03, 0x01, 0x07]

/-- The object identifier of this curve. -/
def curveId : Bytes :=
  algorithmId.drop 9

/-- The bytes of the public key: both coordinates after a mark. -/
def publicBytes (k : EcdsaKey) : Bytes :=
  let (x, y) := Curve.coordinates (Curve.multiple k.secret Curve.generator)
  0x04 :: Sha256.bytesOf 32 x ++ Sha256.bytesOf 32 y

/-- Skips a value of a tag, if it comes next and has the given content. -/
def skipGiven? (tag : UInt8) (content bytes : Bytes) : Option Bytes :=
  if bytes.head? = some tag then do
    let (found, rest) ← Der.readTag? tag bytes
    if found = content then some rest else none
  else some bytes

/-- The private and the public part inside a key. -/
def readParts? (der : Bytes) : Option (Bytes × Bytes) := do
  let body ← Der.only? Der.sequenceTag der
  let (version, rest) ← Der.readSmall? body
  if version ≠ 1 then none
  else
    let (secret, rest) ← Der.readTag? Der.octetsTag rest
    let rest ← skipGiven? 0xA0 curveId rest
    let bits ← Der.only? 0xA1 rest
    match ← Der.only? Der.bitsTag bits with
    | 0 :: point => some (secret, point)
    | _ => none

/-- The key inside a description of its algorithm. -/
def readInner? (der : Bytes) : Option Bytes := do
  let body ← Der.only? Der.sequenceTag der
  let (version, rest) ← Der.readSmall? body
  let (algorithm, rest) ← Der.readTag? Der.sequenceTag rest
  let (inner, rest) ← Der.readTag? Der.octetsTag rest
  let rest ← if rest.head? = some 0xA0 then (Der.readTag? 0xA0 rest).map Prod.snd else some rest
  if version = 0 && algorithm == algorithmId && rest.isEmpty then some inner else none

/-- The key of a DER text; its public part must be that of the private one. -/
def ofDer? (der : Bytes) : Option EcdsaKey := do
  let (secret, point) ← readParts? (← readInner? der)
  let key : EcdsaKey := ⟨Der.number secret⟩
  if secret.length = 32 && 0 < key.secret && key.secret < Curve.order && key.publicBytes == point then
    some key
  else none

/-- The key of a DER text. -/
def ofDer (der : Bytes) : Except KeyFault EcdsaKey :=
  match ofDer? der with
  | some key => .ok key
  | none => .error .badCurveKey

/-- The two numbers of the signature of a message. -/
def signWith (k : EcdsaKey) (nonce : Nat) (message : Bytes) : Nat × Nat :=
  let r := (Curve.coordinates (Curve.multiple nonce Curve.generator)).1 % Curve.order
  let digest := Der.number (sha256 message)
  (r, inverseMod Curve.order nonce * (digest + r * k.secret) % Curve.order)

/-- The number for the signature of one message: nobody without the key can guess it. -/
def nonce (k : EcdsaKey) (message : Bytes) : Nat :=
  Der.number (hmacSha256 (Sha256.bytesOf 32 k.secret) message) % (Curve.order - 1) + 1

/-- The signature of a message: both numbers, of 32 bytes each. -/
def sign (k : EcdsaKey) (message : Bytes) : Bytes :=
  let (r, s) := k.signWith (k.nonce message) message
  Sha256.bytesOf 32 r ++ Sha256.bytesOf 32 s

end EcdsaKey

end GatewayProvisioning.Signature
