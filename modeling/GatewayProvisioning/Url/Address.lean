import GatewayProvisioning.Decimal.Digits
import GatewayProvisioning.Text.Quoted
import GatewayProvisioning.Url.Fault

/-!
Addresses in place of names: four numbers with dots, also in hexadecimal and octal and with the last
numbers joined into one, or eight groups of hexadecimal digits with colons.
-/

namespace GatewayProvisioning.Url

/-! ## Addresses of 32 bits -/

/-- The value of a digit in a base of at most sixteen. -/
def digitIn? (base : Nat) (c : Char) : Option Nat :=
  (Text.hexValue? c).filter (· < base)

/-- The number that digits write in a base. -/
def numberIn? (base : Nat) (cs : List Char) : Option Nat :=
  cs.foldlM (fun n c => (digitIn? base c).map (base * n + ·)) 0

/-- The number of a part of an address; a leading `0x` or `0` gives the base. -/
def ipv4Number? : List Char → Option Nat
  | [] => none
  | '0' :: 'x' :: cs => numberIn? 16 cs
  | '0' :: 'X' :: cs => numberIn? 16 cs
  | '0' :: c :: cs => numberIn? 8 (c :: cs)
  | cs => numberIn? 10 cs

/-- The parts between the dots, without an empty one at the end. -/
def dotParts (host : List Char) : List (List Char) :=
  let parts := Text.splitWhere (· == '.') host
  if 1 < parts.length && parts.getLast? == some [] then parts.dropLast else parts

/-- Whether a host can only be an address: its last part is a number. -/
def endsInNumber (host : List Char) : Bool :=
  match (dotParts host).getLast? with
  | some part => !part.isEmpty && (part.all Text.isDigit || (ipv4Number? part).isSome)
  | none => false

/-- The address of parts: all but the last are below 256, and the last fills what is left. -/
def joinIpv4? (numbers : List Nat) : Option Nat := do
  let last ← numbers.getLast?
  let firsts := numbers.dropLast
  let room := 32 - 8 * firsts.length
  if 3 < firsts.length || firsts.any (255 < ·) || 0 < last >>> room then none
  else some (firsts.foldl (256 * · + ·) 0 <<< room + last)

/-- The address that a host writes. -/
def ipv4? (host : List Char) : Option Nat := do
  joinIpv4? (← (dotParts host).mapM ipv4Number?)

/-- An address as four numbers with dots. -/
def writeIpv4 (address : Nat) : List Char :=
  let part (i : Nat) := Decimal.digits (address >>> (8 * i) % 256)
  part 3 ++ '.' :: part 2 ++ '.' :: part 1 ++ '.' :: part 0

/-! ## Addresses of 128 bits -/

/-- The number of a part between the dots inside an address of groups: no zero leads it. -/
def octet? (cs : List Char) : Option Nat :=
  match cs with
  | [] => none
  | c :: rest =>
    if cs.all Text.isDigit && (c != '0' || rest.isEmpty) && Text.decimalValue cs ≤ 255 then
      some (Text.decimalValue cs)
    else none

/-- The two groups of four numbers with dots. -/
def dottedGroups? (cs : List Char) : Option (List Nat) := do
  match ← (Text.splitWhere (· == '.') cs).mapM octet? with
  | [a, b, c, d] => some [256 * a + b, 256 * c + d]
  | _ => none

/-- A group of one to four hexadecimal digits. -/
def group? (cs : List Char) : Option Nat :=
  if cs.isEmpty || 4 < cs.length then none else Text.hexNumber? cs

/-- The groups of a text without a gap; the last may be four numbers with dots. -/
def groups? (cs : List Char) : Option (List Nat) :=
  if cs.isEmpty then some []
  else do
    let parts := Text.splitWhere (· == ':') cs
    let last ← parts.getLast?
    let firsts ← parts.dropLast.mapM group?
    if last.contains '.' then return firsts ++ (← dottedGroups? last)
    else return firsts ++ [← group? last]

/-- The eight groups of an address; a gap stands for at least one group of zeros. -/
def ipv6? (cs : List Char) : Option (List Nat) :=
  match Text.splitAtMark? [':', ':'] cs with
  | none => (groups? cs).filter (·.length == 8)
  | some (before, after) => do
    let before ← if before.contains '.' then none else groups? before
    let after ← groups? after
    let missing := 8 - (before.length + after.length)
    if missing = 0 then none else some (before ++ List.replicate missing 0 ++ after)

/-- The number of zeros that a row begins with. -/
def leadingZeros (groups : List Nat) : Nat :=
  (groups.takeWhile (· == 0)).length

/-- Where the first of the longest rows of zeros begins, and how long it is; `best` is the longest
so far. -/
def longestZeros (index : Nat) (best : Nat × Nat) : List Nat → Nat × Nat
  | [] => best
  | g :: rest =>
    let here := leadingZeros (g :: rest)
    longestZeros (index + 1) (if best.2 < here then (index, here) else best) rest

/-- Groups with colons between them. -/
def colons : List Nat → List Char
  | [] => []
  | [g] => Text.hexDigits g
  | g :: rest => Text.hexDigits g ++ ':' :: colons rest

/-- An address of groups, with a gap in place of its longest row of two or more zeros. -/
def writeIpv6 (groups : List Nat) : List Char :=
  let (start, length) := longestZeros 0 (0, 0) groups
  if length < 2 then colons groups
  else colons (groups.take start) ++ [':', ':'] ++ colons (groups.drop (start + length))

end GatewayProvisioning.Url
