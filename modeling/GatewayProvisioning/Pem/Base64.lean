import GatewayProvisioning.Pem.Fault
import GatewayProvisioning.Text.Utf8

/-!
The base64 text inside a PEM section. Blanks do not count. The characters are taken in groups of
eight; `=` fills up a group at its end, and may do so in every group.
-/

namespace GatewayProvisioning.Pem

/-- What a byte of base64 text is. -/
inductive Symbol where
  | blank
  | pad
  | digit (n : Nat)
  | other
  deriving DecidableEq, Repr

/-- The symbol of a byte. -/
def Symbol.of (b : UInt8) : Symbol :=
  let n := b.toNat
  if n == 0x20 || (0x09 ≤ n && n ≤ 0x0D) then .blank
  else if n == 0x3D then .pad
  else if 0x41 ≤ n && n ≤ 0x5A then .digit (n - 0x41)
  else if 0x61 ≤ n && n ≤ 0x7A then .digit (n - 0x61 + 26)
  else if 0x30 ≤ n && n ≤ 0x39 then .digit (n - 0x30 + 52)
  else if n == 0x2B then .digit 62
  else if n == 0x2F then .digit 63
  else .other

/-- A group that is being filled: its digits and how many `=` follow them. -/
structure Group where
  digits : List Nat := []
  pads : Nat := 0
  deriving DecidableEq, Repr

/-- How many characters a group has. -/
def Group.size (g : Group) : Nat :=
  g.digits.length + g.pads

/-- The number that digits of six bits write. -/
def sextetsValue (digits : List Nat) : Nat :=
  digits.foldl (fun n d => 64 * n + d) 0

/-- The bytes of digits; bits that make up no byte are dropped. -/
def bytesOfDigits (digits : List Nat) : Bytes :=
  let count := digits.length * 6 / 8
  let value := sextetsValue digits >>> (digits.length * 6 % 8)
  (List.range count).reverse.map fun i => UInt8.ofNat (value >>> (8 * i))

/-- Takes up a digit, which cannot follow a `=` of its group. -/
def Group.push (g : Group) (n : Nat) : Except Base64Fault Group :=
  if 0 < g.pads then .error .earlyPadding else .ok { g with digits := g.digits ++ [n] }

/-- The bytes of a full group. -/
def Group.finishFull (g : Group) : Except Base64Fault Bytes :=
  if g.pads ≤ 2 then .ok (bytesOfDigits g.digits) else .error .badPadding

/-- The bytes of a group that the text ends in. Its first four characters make up three bytes. -/
def Group.finish (g : Group) : Except Base64Fault Bytes :=
  if 4 < g.size && g.digits.length < 4 then .error .earlyPadding
  else
    let digits := if 4 < g.size then g.digits.length - 4 else g.digits.length
    if (digits, g.pads) ∈ [(0, 0), (4, 0), (3, 1), (3, 0), (2, 2), (2, 0)] then
      .ok (bytesOfDigits g.digits)
    else .error .badPadding

/-- The bytes of a text after a group that is not full. -/
def decodeFrom (g : Group) : Bytes → Except Base64Fault Bytes
  | [] => g.finish
  | b :: rest =>
    let go (g : Group) : Except Base64Fault Bytes :=
      if g.size = 8 then do
        let first ← g.finishFull
        return first ++ (← decodeFrom {} rest)
      else decodeFrom g rest
    match Symbol.of b with
    | .blank => decodeFrom g rest
    | .other => .error (.badCharacter b.toNat)
    | .pad => go { g with pads := g.pads + 1 }
    | .digit n => do go (← g.push n)

/-- The bytes of a base64 text. -/
def decodeBase64 (text : Bytes) : Except Base64Fault Bytes :=
  decodeFrom {} text

end GatewayProvisioning.Pem
