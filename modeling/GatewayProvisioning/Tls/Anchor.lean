import GatewayProvisioning.Der.Element

/-!
Which certificates a client can trust as the root of others: those of the third version whose parts
are all there and whose critical extensions are known, and those of the first version.
-/

namespace GatewayProvisioning.Tls

open Der

/-- The extensions that a client knows: key usage, names, constraints and revocation lists. -/
def knownExtensions : List Bytes :=
  [15, 17, 19, 30, 31, 37].map fun n => [0x55, 0x1D, n]

/-- Whether an extension may stand in a certificate: it is known, or it need not be. -/
def extensionAllowed (der : Bytes) : Bool :=
  let parts : Option (Bytes × Bool × Bytes) := do
    let (id, rest) ← readTag? 0x06 der
    match readTag? 0x01 rest with
    | some (flag, rest) => some (id, flag == [0xFF], rest)
    | none => some (id, false, rest)
  match parts with
  | some (id, critical, rest) =>
    (only? octetsTag rest).isSome && (!critical || knownExtensions.contains id)
  | none => false

/-- Whether all values of a row are extensions that may stand in a certificate. -/
def extensionsAllowed : Nat → Bytes → Bool
  | 0, _ => false
  | _ + 1, [] => true
  | fuel + 1, bytes =>
    match readTag? sequenceTag bytes with
    | some (der, rest) => extensionAllowed der && extensionsAllowed fuel rest
    | none => false

/-- Skips values of the given tags. -/
def skipTags? : List UInt8 → Bytes → Option Bytes
  | [], bytes => some bytes
  | tag :: tags, bytes => do skipTags? tags (← readTag? tag bytes).2

/-- Whether the extensions at the end of a certificate, if there are any, may stand in it. -/
def endAllowed (bytes : Bytes) : Bool :=
  bytes.isEmpty ||
    match (only? 0xA3 bytes).bind (only? sequenceTag) with
    | some row => extensionsAllowed (row.length + 1) row
    | none => false

/-- The tags of issuer, validity, subject and public key. -/
def middleTags : List UInt8 :=
  [sequenceTag, sequenceTag, sequenceTag, sequenceTag]

/-- Whether the signed part of a certificate of the third version, signed by an algorithm, is sound. -/
def thirdVersionAllowed (algorithm body : Bytes) : Bool :=
  let rest : Option Bytes := do
    let (_, rest) ← readTag? integerTag body
    let (inner, rest) ← readTag? sequenceTag rest
    if inner = algorithm then skipTags? middleTags rest else none
  rest.any endAllowed

/-- Whether the signed part of a certificate of the first version is sound. -/
def firstVersionAllowed (body : Bytes) : Bool :=
  (skipTags? (integerTag :: sequenceTag :: middleTags) body).any (·.isEmpty)

/-- Whether a certificate can be trusted as a root. -/
def isAnchor (certificate : Bytes) : Bool :=
  let parts : Option (Bytes × Bytes) := do
    let body ← only? sequenceTag certificate
    let (signed, rest) ← readTag? sequenceTag body
    let (algorithm, rest) ← readTag? sequenceTag rest
    match ← only? bitsTag rest with
    | 0 :: _ => some (signed, algorithm)
    | _ => none
  match parts with
  | none => false
  | some (signed, algorithm) =>
    match readTag? 0xA0 signed with
    | some (version, rest) =>
      readSmall? version == some (2, []) && thirdVersionAllowed algorithm rest
    | none => firstVersionAllowed signed

end GatewayProvisioning.Tls
