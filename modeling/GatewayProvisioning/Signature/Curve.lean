import GatewayProvisioning.Signature.Modular

/-!
The curve `y² = x³ - 3x + b` over the residues of a prime of 256 bits. Points are kept with a common
denominator, so that sums need no division.
-/

namespace GatewayProvisioning.Signature.Curve

/-- The prime of the field. -/
def prime : Nat := 0xffffffff00000001000000000000000000000000ffffffffffffffffffffffff

/-- The number of points. -/
def order : Nat := 0xffffffff00000000ffffffffffffffffbce6faada7179e84f3b9cac2fc632551

/-- A point `(x / z², y / z³)`; `z` is zero for the point at infinity. -/
structure Point where
  x : Nat
  y : Nat
  z : Nat
  deriving DecidableEq, Repr

/-- The point at infinity. -/
def zero : Point := ⟨1, 1, 0⟩

/-- The point that generates all others. -/
def generator : Point where
  x := 0x6b17d1f2e12c4247f8bce6e563a440f277037d812deb33a0f4a13945d898c296
  y := 0x4fe342e2fe1a7f9b8ee7eb4a7c0f9e162bce33576b315ececbb6406837bf51f5
  z := 1

/-- The product of residues. -/
def mul (a b : Nat) : Nat :=
  a * b % prime

/-- The difference of residues. -/
def sub (a b : Nat) : Nat :=
  subMod prime a b

/-- A point added to itself. -/
def double (p : Point) : Point :=
  if p.z = 0 || p.y = 0 then zero
  else
    let yy := mul p.y p.y
    let s := mul 4 (mul p.x yy)
    let zz := mul p.z p.z
    let m := mul 3 (mul (sub p.x zz) ((p.x + zz) % prime))
    let x := sub (mul m m) (mul 2 s)
    ⟨x, sub (mul m (sub s x)) (mul 8 (mul yy yy)), mul 2 (mul p.y p.z)⟩

/-- The sum of two points. -/
def add (p q : Point) : Point :=
  if p.z = 0 then q
  else if q.z = 0 then p
  else
    let zz₁ := mul p.z p.z
    let zz₂ := mul q.z q.z
    let u₁ := mul p.x zz₂
    let u₂ := mul q.x zz₁
    let s₁ := mul p.y (mul zz₂ q.z)
    let s₂ := mul q.y (mul zz₁ p.z)
    if u₁ = u₂ then if s₁ = s₂ then double p else zero
    else
      let h := sub u₂ u₁
      let r := sub s₂ s₁
      let hh := mul h h
      let hhh := mul h hh
      let v := mul u₁ hh
      let x := sub (sub (mul r r) hhh) (mul 2 v)
      ⟨x, sub (mul r (sub v x)) (mul s₁ hhh), mul h (mul p.z q.z)⟩

/-- A multiple of a point. -/
def multiple (n : Nat) (p : Point) : Point :=
  if n = 0 then zero
  else
    let half := multiple (n / 2) (double p)
    if n % 2 = 0 then half else add half p
termination_by n
decreasing_by omega

/-- The coordinates of a point, which must not be at infinity. -/
def coordinates (p : Point) : Nat × Nat :=
  let i := inverseMod prime p.z
  let ii := mul i i
  (mul p.x ii, mul p.y (mul ii i))

end GatewayProvisioning.Signature.Curve
