import GatewayProvisioning.Text.Utf8

/-!
Percent encoding: a byte as `%` and two hexadecimal digits. A path segment keeps the characters that
mean nothing in a URL; a form field keeps fewer and writes a blank as `+`.
-/

namespace GatewayProvisioning.Url

/-- Whether a byte is an ASCII letter or digit. -/
def isAlphanumeric (b : UInt8) : Bool :=
  let n := b.toNat
  (0x30 ≤ n && n ≤ 0x39) || (0x41 ≤ n && n ≤ 0x5A) || (0x61 ≤ n && n ≤ 0x7A)

/-- Whether a byte may stand for itself in any part of a URL. -/
def isUnreserved (b : UInt8) : Bool :=
  isAlphanumeric b || b == 0x2D || b == 0x2E || b == 0x5F || b == 0x7E

/-- A byte as `%` and two upper case digits. -/
def percentByte (b : UInt8) : List Char :=
  ['%', Text.hexDigitUpper (b.toNat / 16), Text.hexDigitUpper (b.toNat % 16)]

/-- Bytes with percent escapes for those that `keep` does not hold of, which must be ASCII where it
holds. -/
def percentEncode (keep : UInt8 → Bool) (bytes : Bytes) : List Char :=
  bytes.flatMap fun b => if keep b then [Char.ofNat b.toNat] else percentByte b

/-- One path segment. No name can leave its segment, since `/`, `?` and `#` are escaped. -/
def encodeSegment (raw : String) : String :=
  String.ofList (percentEncode isUnreserved (Utf8.encode raw))

/-- The bytes of a percent encoded text. An escape without two digits stands for itself. -/
def percentDecode : Bytes → Bytes
  | [] => []
  | 0x25 :: a :: b :: rest =>
    match Text.hexValue? (Char.ofNat a.toNat), Text.hexValue? (Char.ofNat b.toNat) with
    | some high, some low => UInt8.ofNat (16 * high + low) :: percentDecode rest
    | _, _ => 0x25 :: percentDecode (a :: b :: rest)
  | b :: rest => b :: percentDecode rest

/-! ## Forms -/

/-- The fields of a form. A key may occur more than once. -/
abbrev Form := List (String × String)

/-- Whether a byte stands for itself in a form. -/
def isFormByte (b : UInt8) : Bool :=
  isAlphanumeric b || b == 0x2A || b == 0x2D || b == 0x2E || b == 0x5F

/-- A text inside a form. -/
def encodeFormText (s : String) : List Char :=
  (Utf8.encode s).flatMap fun b =>
    if b == 0x20 then ['+'] else if isFormByte b then [Char.ofNat b.toNat] else percentByte b

/-- The fields joined by `&`. -/
def encodeFields : Form → List Char
  | [] => []
  | [(k, v)] => encodeFormText k ++ '=' :: encodeFormText v
  | (k, v) :: rest => encodeFormText k ++ '=' :: encodeFormText v ++ '&' :: encodeFields rest

/-- A form as the body of a request. -/
def encodeForm (fields : Form) : String :=
  String.ofList (encodeFields fields)

/-! ## Joining -/

/-- A base without the slashes at its end. -/
def trimBase (base : String) : List Char :=
  Text.dropEndWhile (· == '/') base.toList

/-- Appends a segment after one slash; a segment of slashes adds nothing. -/
def appendSegment (url : List Char) (segment : String) : List Char :=
  match Text.dropBothWhile (· == '/') segment.toList with
  | [] => url
  | cs => url ++ '/' :: cs

/-- A base and segments with exactly one slash between them. -/
def join (base : String) (segments : List String) : String :=
  String.ofList (segments.foldl appendSegment (trimBase base))

end GatewayProvisioning.Url
