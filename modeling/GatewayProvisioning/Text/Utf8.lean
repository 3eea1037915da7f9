import GatewayProvisioning.Text.Basic

/-!
UTF-8: the bytes of a text, the text of bytes, and the reading of bytes that belong to no character.
-/

namespace GatewayProvisioning

/-- A row of bytes, such as the contents of a file. -/
abbrev Bytes := List UInt8

namespace Utf8

/-- The bytes of a row of characters. -/
def encodeChars (cs : List Char) : Bytes :=
  cs.flatMap String.utf8EncodeChar

/-- The bytes of a text. -/
def encode (s : String) : Bytes :=
  encodeChars s.toList

/-- The numbers of continuation bytes, and the bounds of the first of them, after each first byte of
a character of several bytes. -/
def continuation? (b : Nat) : Option (Nat × Nat × Nat) :=
  if 0xC2 ≤ b && b ≤ 0xDF then some (1, 0x80, 0xBF)
  else if b == 0xE0 then some (2, 0xA0, 0xBF)
  else if b == 0xED then some (2, 0x80, 0x9F)
  else if 0xE1 ≤ b && b ≤ 0xEF then some (2, 0x80, 0xBF)
  else if b == 0xF0 then some (3, 0x90, 0xBF)
  else if 0xF1 ≤ b && b ≤ 0xF3 then some (3, 0x80, 0xBF)
  else if b == 0xF4 then some (3, 0x80, 0x8F)
  else none

/-- Where a decoder stands: between characters, or inside one whose bits so far, number of missing
bytes and bounds of the next byte are known. -/
inductive Position where
  | between
  | within (value missing low high : Nat)

/-- Reads a byte that stands where a character begins. -/
def enter (b : UInt8) : List (Option Char) × Position :=
  if b.toNat < 0x80 then ([some (Char.ofNat b.toNat)], .between)
  else
    match continuation? b.toNat with
    | none => ([none], .between)
    | some (missing, low, high) => ([], .within (b.toNat % Nat.pow 2 (6 - missing)) missing low high)

/-- What one byte completes, and where it leaves the decoder. `none` stands for the longest run of
bytes that begins a character and is not continued to its end, or for one byte that begins none. -/
def step : Position → UInt8 → List (Option Char) × Position
  | .between, b => enter b
  | .within value missing low high, b =>
    if low ≤ b.toNat && b.toNat ≤ high then
      let value := value * 64 + (b.toNat - 0x80)
      if missing ≤ 1 then ([some (Char.ofNat value)], .between)
      else ([], .within value (missing - 1) 0x80 0xBF)
    else
      let (found, position) := enter b
      (none :: found, position)

/-- The characters of the bytes that follow a position. -/
def glyphsFrom : Position → Bytes → List (Option Char)
  | .between, [] => []
  | .within .., [] => [none]
  | position, b :: rest => (step position b).1 ++ glyphsFrom (step position b).2 rest

/-- The characters of bytes; `none` stands for bytes that belong to no character. -/
def glyphs (bytes : Bytes) : List (Option Char) :=
  glyphsFrom .between bytes

/-- The text of bytes, if all of them belong to characters. -/
def decode? (bytes : Bytes) : Option String :=
  (glyphs bytes).mapM id |>.map String.ofList

/-- The text of bytes with a replacement character for each `none` among the glyphs. -/
def decodeLossy (bytes : Bytes) : String :=
  String.ofList ((glyphs bytes).map (·.getD (Char.ofNat 0xFFFD)))

end Utf8

end GatewayProvisioning
