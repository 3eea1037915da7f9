import GatewayProvisioning.Text.Basic

/-!
Punycode: a row of code points as ASCII letters and digits. The ASCII characters come first; each of
the others is a step, of variable length, from the one before it.
-/

namespace GatewayProvisioning.Url.Punycode

/-- The digit of a number below 36. -/
def digit (n : Nat) : Char :=
  if n < 26 then Char.ofNat ('a'.toNat + n) else Char.ofNat ('0'.toNat + n - 26)

/-- The value of a digit of either case. -/
def digitValue? (c : Char) : Option Nat :=
  if Text.isDigit c then some (Text.digitValue c + 26)
  else
    let l := Text.asciiLower c
    if 'a' ≤ l && l ≤ 'z' then some (l.toNat - 'a'.toNat) else none

/-- How often a step is divided before it is small, and what is left. -/
def damp : Nat → Nat → Nat → Nat × Nat
  | 0, k, delta => (k, delta)
  | fuel + 1, k, delta => if 455 < delta then damp fuel (k + 36) (delta / 35) else (k, delta)

/-- The bias after a step to the `count`-th code point. -/
def adapt (delta count : Nat) (first : Bool) : Nat :=
  let delta := if first then delta / 700 else delta / 2
  let (k, delta) := damp 40 0 (delta + delta / count)
  k + 36 * delta / (delta + 38)

/-- The threshold at a position of a step. -/
def threshold (k bias : Nat) : Nat :=
  if k ≤ bias then 1 else if bias + 26 ≤ k then 26 else k - bias

/-- The digits of a step. -/
def stepDigits : Nat → Nat → Nat → Nat → List Char
  | 0, _, _, _ => []
  | fuel + 1, q, k, bias =>
    let t := threshold k bias
    if q < t then [digit q]
    else digit (t + (q - t) % (36 - t)) :: stepDigits fuel ((q - t) / (36 - t)) (k + 36) bias

/-- The state of an encoder: the step so far, the bias, how many code points have been handled, and
whether the next step is the first. -/
structure Encoder where
  delta : Nat
  bias : Nat
  handled : Nat
  first : Bool

/-- Goes through a row for one code point `n`: those below it lengthen the step, and it ends it. -/
def encodePass (n : Nat) : List Nat → Encoder → List Char × Encoder
  | [], e => ([], e)
  | c :: cs, e =>
    if c < n then encodePass n cs { e with delta := e.delta + 1 }
    else if c = n then
      let digits := stepDigits 40 e.delta 36 e.bias
      let bias := adapt e.delta (e.handled + 1) e.first
      let (rest, e) := encodePass n cs ⟨0, bias, e.handled + 1, false⟩
      (digits ++ rest, e)
    else encodePass n cs e

/-- The steps to all code points from `n` on. -/
def encodeFrom (row : List Nat) : Nat → Nat → Encoder → List Char
  | 0, _, _ => []
  | fuel + 1, n, e =>
    match (row.filter (n ≤ ·)).min? with
    | none => []
    | some m =>
      let (digits, e) := encodePass m row { e with delta := e.delta + (m - n) * (e.handled + 1) }
      digits ++ encodeFrom row fuel (m + 1) { e with delta := e.delta + 1 }

/-- The punycode of a row of code points. -/
def encode (row : List Nat) : List Char :=
  let basic := (row.filter (· < 0x80)).map Char.ofNat
  let start : Encoder := ⟨0, 72, basic.length, true⟩
  (if basic.isEmpty then [] else basic ++ ['-']) ++ encodeFrom row row.length 0x80 start

/-- Reads a step: its size and what follows it. -/
def readStep : List Char → Nat → Nat → Nat → Nat → Option (Nat × List Char)
  | [], _, _, _, _ => none
  | c :: cs, i, weight, k, bias => do
    let d ← digitValue? c
    let i := i + d * weight
    if UInt32.size ≤ i then none
    else
      let t := threshold k bias
      if d < t then some (i, cs) else readStep cs i (weight * (36 - t)) (k + 36) bias

/-- Puts the code points of the steps into a row. -/
def decodeFrom : Nat → List Char → List Nat → Nat → Nat → Nat → Option (List Nat)
  | 0, _, _, _, _, _ => none
  | _ + 1, [], row, _, _, _ => some row
  | fuel + 1, cs, row, n, i, bias => do
    let (next, cs) ← readStep cs i 1 36 bias
    let count := row.length + 1
    let bias := adapt (next - i) count (i == 0)
    let n := n + next / count
    let i := next % count
    if n < 0x80 || 0x110000 ≤ n || (0xD800 ≤ n && n < 0xE000) then none
    else decodeFrom fuel cs (row.take i ++ n :: row.drop i) n (i + 1) bias

/-- The row of code points of a punycode. -/
def decode? (cs : List Char) : Option (List Nat) :=
  let (basic, steps) :=
    match Text.splitLast? (· == '-') cs with
    | some (basic, steps) => (basic, steps)
    | none => ([], cs)
  if basic.any fun c => 0x80 ≤ c.toNat then none
  else decodeFrom (steps.length + 1) steps (basic.map Char.toNat) 0x80 0 72

end GatewayProvisioning.Url.Punycode
