import GatewayProvisioning.Der.Element
import GatewayProvisioning.Digest.Sha256
import GatewayProvisioning.Signature.Fault
import GatewayProvisioning.Signature.Modular

/-!
RSA signatures: the digest of a message, padded to the length of the modulus, raised to the private
exponent.
-/

namespace GatewayProvisioning.Signature

/-- A private key: modulus, exponents and primes, and what speeds up their use. -/
structure RsaKey where
  modulus : Nat
  publicExponent : Nat
  privateExponent : Nat
  p : Nat
  q : Nat
  dp : Nat
  dq : Nat
  qInverse : Nat
  deriving DecidableEq, Repr

namespace RsaKey

/-- The number of bytes of the modulus. -/
def size (k : RsaKey) : Nat :=
  (bitLength k.modulus + 7) / 8

/-- Refuses a modulus of another size than 2048 to 4096 bits, a public exponent below 65537 and parts
that do not go together. -/
def validate (k : RsaKey) : Except KeyFault Unit := do
  if k.modulus % 2 = 0 then throw .badComponent
  if bitLength k.modulus < 2048 then throw .tooSmall
  if 4096 < bitLength k.modulus then throw .tooLarge
  if k.publicExponent < 65537 then throw .tooSmall
  if 33 < bitLength k.publicExponent then throw .tooLarge
  if k.publicExponent % 2 = 0 then throw .badComponent
  if k.p * k.q ≠ k.modulus then throw .inconsistent
  if bitLength k.privateExponent ≤ (bitLength k.modulus + 1) / 2 then throw .inconsistent
  if k.modulus ≤ k.privateExponent then throw .inconsistent
  if k.p ≤ k.dp || k.q ≤ k.dq then throw .inconsistent
  if k.p ≤ k.qInverse then throw .badComponent
  if k.q * k.qInverse % k.p ≠ 1 then throw .inconsistent

/-- Reads the eight numbers of a key. -/
def readNumbers? : Nat → Bytes → Option (List Nat × Bytes)
  | 0, bytes => some ([], bytes)
  | count + 1, bytes => do
    let (n, rest) ← Der.readNatural? bytes
    let (ns, rest) ← readNumbers? count rest
    return (n :: ns, rest)

/-- The key of a DER text. -/
def ofDer (der : Bytes) : Except KeyFault RsaKey :=
  match (Der.only? Der.sequenceTag der).bind Der.readSmall? with
  | none => .error .badEncoding
  | some (version, rest) =>
    if version ≠ 0 then .error .badVersion
    else
      match readNumbers? 8 rest with
      | some ([modulus, publicExponent, privateExponent, p, q, dp, dq, qInverse], rest) => do
        let key : RsaKey :=
          { modulus, publicExponent, privateExponent, p, q, dp, dq, qInverse }
        key.validate
        if rest.isEmpty then return key else throw .badEncoding
      | _ => .error .badEncoding

/-- What stands before a SHA-256 digest and says that it is one. -/
def digestMark : Bytes :=
  [0x30, 0x31, 0x30, 0x0D, 0x06, 0x09, 0x60, 0x86, 0x48, 0x01, 0x65, 0x03, 0x04, 0x02, 0x01, 0x05,
    0x00, 0x04, 0x20]

/-- The digest of a message, padded to a length. -/
def padded (length : Nat) (message : Bytes) : Bytes :=
  let tail := digestMark ++ sha256 message
  [0x00, 0x01] ++ List.replicate (length - 3 - tail.length) 0xFF ++ [0x00] ++ tail

/-- The signature of a message. -/
def sign (k : RsaKey) (message : Bytes) : Bytes :=
  Sha256.bytesOf k.size
    (powMod k.modulus (Der.number (padded k.size message)) k.privateExponent)

end RsaKey

end GatewayProvisioning.Signature
