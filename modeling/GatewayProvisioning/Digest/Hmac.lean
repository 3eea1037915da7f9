import GatewayProvisioning.Digest.Sha256

/-!
Keyed digests.
-/

namespace GatewayProvisioning

/-- A key as a block of 64 bytes; a longer key is digested first. -/
def hmacBlock (key : Bytes) : Bytes :=
  let short := if 64 < key.length then sha256 key else key
  short ++ List.replicate (64 - short.length) 0

/-- The keyed SHA-256 digest of a message. -/
def hmacSha256 (key message : Bytes) : Bytes :=
  let block := hmacBlock key
  let inner := sha256 (block.map (· ^^^ 0x36) ++ message)
  sha256 (block.map (· ^^^ 0x5C) ++ inner)

end GatewayProvisioning
