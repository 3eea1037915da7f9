import GatewayProvisioning.Text.Utf8

/-!
Base64: three bytes as four characters of six bits each. There are two alphabets, and characters that
fill the last group of four may be left out.
-/

namespace GatewayProvisioning.Base64

/-- The alphabet for texts that stand in URLs. -/
def urlAlphabet : List Char :=
  "ABCDEFGHIJKLMNOPQRSTUVWXYZabcdefghijklmnopqrstuvwxyz0123456789-_".toList

/-- The usual alphabet. -/
def standardAlphabet : List Char :=
  "ABCDEFGHIJKLMNOPQRSTUVWXYZabcdefghijklmnopqrstuvwxyz0123456789+/".toList

/-- The character of six bits. -/
def sextet (alphabet : List Char) (n : Nat) : Char :=
  alphabet.getD (n % 64) 'A'

/-- The text of bytes, without filling characters. -/
def encodeWith (alphabet : List Char) : Bytes → List Char
  | [] => []
  | [a] =>
    let n := a.toNat * 16
    [sextet alphabet (n / 64), sextet alphabet n]
  | [a, b] =>
    let n := (a.toNat * 256 + b.toNat) * 4
    [sextet alphabet (n / 4096), sextet alphabet (n / 64), sextet alphabet n]
  | a :: b :: c :: rest =>
    let n := (a.toNat * 256 + b.toNat) * 256 + c.toNat
    sextet alphabet (n / 262144) :: sextet alphabet (n / 4096) :: sextet alphabet (n / 64) ::
      sextet alphabet n :: encodeWith alphabet rest

/-- The text of bytes in a URL. -/
def encodeUrl (bytes : Bytes) : String :=
  String.ofList (encodeWith urlAlphabet bytes)

/-- The six bits of a character. -/
def value? (alphabet : List Char) (c : Char) : Option Nat :=
  alphabet.findIdx? (· == c)

/-- The bytes of a text without filling characters; the bits that fill its last byte are zero. -/
def decodeWith? (alphabet : List Char) : List Char → Option Bytes
  | [] => some []
  | [_] => none
  | [a, b] => do
    let n := (← value? alphabet a) * 64 + (← value? alphabet b)
    if n % 16 = 0 then some [UInt8.ofNat (n / 16)] else none
  | [a, b, c] => do
    let n := ((← value? alphabet a) * 64 + (← value? alphabet b)) * 64 + (← value? alphabet c)
    if n % 4 = 0 then some [UInt8.ofNat (n / 1024), UInt8.ofNat (n / 4)] else none
  | a :: b :: c :: d :: rest => do
    let n := (((← value? alphabet a) * 64 + (← value? alphabet b)) * 64 + (← value? alphabet c)) * 64
      + (← value? alphabet d)
    return UInt8.ofNat (n / 65536) :: UInt8.ofNat (n / 256) :: UInt8.ofNat n ::
      (← decodeWith? alphabet rest)

/-- The bytes of a text in a URL. -/
def decodeUrl? (s : String) : Option Bytes :=
  decodeWith? urlAlphabet s.toList

/-- The bytes of a text whose last group of four is filled up with `=`. -/
def decodeFilled? (cs : List Char) : Option Bytes :=
  if cs.length % 4 = 0 then
    let bare := Text.dropEndWhile (· == '=') cs
    if cs.length - bare.length ≤ 2 then decodeWith? standardAlphabet bare else none
  else none

end GatewayProvisioning.Base64
