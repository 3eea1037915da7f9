import GatewayProvisioning.Decimal.Shortest

/-!
Numbers as a document writes them. A numeral keeps the digits; its number is a natural number or a
negative integer of 64 bits where it can be one, and a floating point number otherwise.
-/

namespace GatewayProvisioning.Decimal

/-- A number of 64 bits: a natural number, the negative integer `-(n + 1)`, or a floating point
number. -/
inductive Number where
  | natural (n : Nat)
  | negative (n : Nat)
  | float (x : Float)

/-- What spoils a numeral: a character that cannot stand where it stands, or the end of the text
where a digit must follow. -/
inductive NumeralFault where
  | malformed
  | cut
  deriving DecidableEq, Repr

/-- The digits of a written number. An exponent has a sign, `true` for a minus. -/
structure Numeral where
  negative : Bool
  whole : List Char
  fraction : Option (List Char) := none
  exponent : Option (Bool × List Char) := none
  fault : Option NumeralFault := none
  deriving DecidableEq, Repr

/-- Digits as they are taken up, with their power of ten. Once the next digit would overflow 64 bits
the digits after it no longer count. -/
structure Significand where
  value : Nat
  exponent : Int
  full : Bool

namespace Significand

/-- Takes up a digit before the point. -/
def pushWhole (s : Significand) (c : Char) : Significand :=
  let next := 10 * s.value + Text.digitValue c
  if s.full || UInt64.size ≤ next then { s with exponent := s.exponent + 1, full := true }
  else { s with value := next }

/-- Takes up a digit after the point. -/
def pushFraction (s : Significand) (c : Char) : Significand :=
  let next := 10 * s.value + Text.digitValue c
  if s.full || UInt64.size ≤ next then { s with full := true }
  else { s with value := next, exponent := s.exponent - 1 }

end Significand

/-- A power of ten as a floating point number. -/
def powerOfTen (k : Nat) : Float :=
  Float.ofScientific 1 false k

/-- A significand times a power of ten, by one rounded multiplication or by rounded divisions; `none`
if the product is too large. -/
def scaled? (fuel : Nat) (f : Float) (exponent : Int) : Option Float :=
  if exponent.natAbs ≤ 308 then
    if 0 ≤ exponent then
      let product := f * powerOfTen exponent.natAbs
      if product.isInf then none else some product
    else some (f / powerOfTen exponent.natAbs)
  else if f == 0.0 then some f
  else if 0 ≤ exponent then none
  else
    match fuel with
    | 0 => some 0.0
    | fuel + 1 => scaled? fuel (f / powerOfTen 308) (exponent + 308)

namespace Numeral

/-- The numeral of a natural number. -/
def ofNat (n : Nat) : Numeral :=
  { negative := false, whole := digits n }

/-- The numeral of an integer. -/
def ofInt (i : Int) : Numeral :=
  { negative := i < 0, whole := digits i.natAbs }

/-- The numeral without the minus of a zero. -/
def unsignZero (n : Numeral) : Numeral :=
  if n.whole = ['0'] ∧ n.fraction.isNone ∧ n.exponent.isNone then { n with negative := false } else n

/-- The exponent of a numeral joined to that of its significand; `none` if it does not fit into 32
bits. -/
def joinedExponent? (significand : Significand) : Option (Bool × List Char) → Option Int
  | none => some significand.exponent
  | some (minus, ds) =>
    let e := Text.decimalValue ds
    if 0x80000000 ≤ e then none
    else some (if minus then significand.exponent - e else significand.exponent + e)

/-- The floating point number of a numeral; `none` if it is too large. -/
def float? (n : Numeral) : Option Float :=
  let whole := n.whole.foldl Significand.pushWhole ⟨0, 0, false⟩
  let significand := (n.fraction.getD []).foldl Significand.pushFraction whole
  let magnitude :=
    match joinedExponent? significand n.exponent with
    | some e => scaled? 64 (Float.ofNat significand.value) e
    | none =>
      if significand.value ≠ 0 ∧ n.exponent.map Prod.fst = some false then none else some 0.0
  magnitude.map fun x => if n.negative then -x else x

/-- The number of a numeral without a fault; `none` if it is too large. -/
def number? (n : Numeral) : Option Number :=
  let value := Text.decimalValue n.whole
  if n.fraction.isNone && n.exponent.isNone && !n.negative && value < UInt64.size then
    some (.natural value)
  else if n.fraction.isNone && n.exponent.isNone && n.negative && 0 < value && value ≤ 0x8000000000000000 then
    some (.negative (value - 1))
  else n.float?.map .float

end Numeral

/-- A number in decimal. -/
def Number.write : Number → String
  | .natural n => ofNat n
  | .negative n => ofInt (.negSucc n)
  | .float x => ofFloat x

end GatewayProvisioning.Decimal
