/-!
Powers and inverses of residues.
-/

namespace GatewayProvisioning.Signature

/-- The power `base ^ exponent` modulo `m`, by squaring. -/
def powMod (m base exponent : Nat) : Nat :=
  if exponent = 0 then 1 % m
  else
    let half := powMod m (base * base % m) (exponent / 2)
    if exponent % 2 = 0 then half else half * base % m
termination_by exponent
decreasing_by omega

/-- The inverse of a residue modulo a prime. -/
def inverseMod (p a : Nat) : Nat :=
  powMod p a (p - 2)

/-- The difference of two residues. -/
def subMod (m a b : Nat) : Nat :=
  (a % m + (m - b % m)) % m

/-- The number of bits of a natural number. -/
def bitLength (n : Nat) : Nat :=
  if n = 0 then 0 else Nat.log2 n + 1

end GatewayProvisioning.Signature
