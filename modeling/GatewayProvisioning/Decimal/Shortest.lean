import GatewayProvisioning.Decimal.Digits

/-!
The shortest decimal that reads back as a given floating point number. A number stands for every
real that rounds to it; of the decimals in that interval, the one with the fewest digits is chosen,
and of those the one nearest to the number.
-/

namespace GatewayProvisioning.Decimal

/-- The positive number `mantissa * 2 ^ exponent`, and the reals that round to it: from
`lower / 4 * 2 ^ exponent` up to `upper / 4 * 2 ^ exponent`. -/
structure Binary where
  mantissa : Nat
  exponent : Int
  lower : Nat
  upper : Nat

/-- The parts of the finite positive number with the given bits. Below a power of two the next number
is half as far away as above it. -/
def Binary.ofBits (bits : Nat) : Binary :=
  let hidden : Nat := Nat.pow 2 52
  let fraction : Nat := bits % hidden
  let scale : Nat := bits / hidden % 2048
  let mantissa : Nat := if scale = 0 then fraction else fraction + hidden
  let exponent : Int := Int.ofNat (max scale 1) - 1075
  let lower := if fraction = 0 ∧ 1 < scale then 4 * mantissa - 1 else 4 * mantissa - 2
  ⟨mantissa, exponent, lower, 4 * mantissa + 2⟩

/-- Compares `a * 2 ^ i` with `b * 10 ^ j`. -/
def comparePowers (a : Nat) (i : Int) (b : Nat) (j : Int) : Ordering :=
  compare (a * Nat.pow 2 i.toNat * Nat.pow 10 (-j).toNat)
    (b * Nat.pow 10 j.toNat * Nat.pow 2 (-i).toNat)

/-- Whether `d * 10 ^ e` rounds to the number. The ends of the interval belong to it when the
mantissa is even. -/
def Binary.contains (x : Binary) (d : Nat) (e : Int) : Bool :=
  let above := comparePowers x.lower (x.exponent - 2) d e
  let below := comparePowers x.upper (x.exponent - 2) d e
  if x.mantissa % 2 = 0 then above.isLE && below.isGE else above.isLT && below.isGT

/-- The greatest multiple of `10 ^ e` that is not above the number, divided by `10 ^ e`. -/
def Binary.floorAt (x : Binary) (e : Int) : Nat :=
  (x.mantissa * Nat.pow 2 x.exponent.toNat * Nat.pow 10 (-e).toNat) /
    (Nat.pow 10 e.toNat * Nat.pow 2 (-x.exponent).toNat)

/-- Of two neighbours `d` and `d + 1` on a grid, whether the number is at most half way. -/
def Binary.nearerFloor (x : Binary) (d : Nat) (e : Int) : Bool :=
  (comparePowers (2 * x.mantissa) x.exponent (2 * d + 1) e).isLE

/-- The decimal on the grid of `10 ^ e` that reads back as the number and is nearest to it. -/
def Binary.onGrid? (x : Binary) (e : Int) : Option Nat :=
  let d := x.floorAt e
  let below := x.contains d e
  let above := x.contains (d + 1) e
  if below && (x.nearerFloor d e || !above) then some d
  else if above then some (d + 1)
  else none

/-- The decimal exponent of the leading digit of the number. -/
def Binary.magnitude (x : Binary) : Int :=
  let whole := x.floorAt 0
  if 0 < whole then (digits whole).length - 1
  else
    match (List.range 330).find? fun k => 0 < x.floorAt (-Int.ofNat k) with
    | some k => -Int.ofNat k
    | none => -330

/-- The first grid, from coarse to fine, that holds a decimal for the number. -/
def Binary.shortest (x : Binary) : Nat × Int :=
  let top := x.magnitude + 1
  let grids : List Int := (List.range 18).map fun k => top - Int.ofNat k
  match grids.findSome? fun e => (x.onGrid? e).map fun d => (d, e) with
  | some found => found
  | none => (0, 0)

/-- Moves trailing zeros of the digits into the exponent. -/
def normalize (fuel : Nat) (d : Nat) (e : Int) : Nat × Int :=
  match fuel with
  | 0 => (d, e)
  | fuel + 1 => if 0 < d && d % 10 = 0 then normalize fuel (d / 10) (e + 1) else (d, e)

/-- How a floating point number is laid out: the decimal exponents of the leading digit that are
written without a power of ten, and whether a positive power has its sign. -/
structure Layout where
  smallest : Int
  largest : Int
  plus : Bool

/-- Digits and a power of ten, laid out. A number without a power of ten always has a point. -/
def Layout.write (layout : Layout) (d : Nat) (e : Int) : String :=
  let ds := digits d
  let lead : Int := ds.length + e - 1
  if layout.smallest ≤ lead ∧ lead ≤ layout.largest then
    if 0 ≤ e then String.ofList (ds ++ List.replicate e.toNat '0') ++ ".0"
    else if 0 ≤ lead then
      String.ofList (ds.take (lead + 1).toNat) ++ "." ++ String.ofList (ds.drop (lead + 1).toNat)
    else "0." ++ String.ofList (List.replicate (-lead - 1).toNat '0' ++ ds)
  else
    let power := (if 0 ≤ lead ∧ layout.plus then "+" else "") ++ ofInt lead
    let point := if ds.length = 1 then "" else "." ++ String.ofList (ds.drop 1)
    String.ofList (ds.take 1) ++ point ++ "e" ++ power

/-- From 0.00001 up to below 10000000000000000 no power of ten is written. -/
def standardLayout : Layout := ⟨-5, 15, true⟩

/-- A finite floating point number in its shortest decimal. -/
def ofFloat (x : Float) : String :=
  let bits := x.toBits.toNat
  let signBit := Nat.pow 2 63
  let sign := if bits / signBit = 1 then "-" else ""
  let magnitude := bits % signBit
  if magnitude = 0 then sign ++ "0.0"
  else
    let (d, e) := (Binary.ofBits magnitude).shortest
    let (d, e) := normalize 20 d e
    sign ++ standardLayout.write d e

end GatewayProvisioning.Decimal
