import GatewayProvisioning.Text.CompositionTable

/-!
The composed form of a text: marks stand in the order of their classes, and a character and a mark
that make up one character are written as that.
-/

namespace GatewayProvisioning.Text

/-! ## Hangul syllables -/

/-- The first syllable. -/
def syllableBase : Nat := 0xAC00

/-- The parts of a syllable: a leading consonant, a vowel and at most one trailing consonant. -/
def syllableParts? (n : Nat) : Option (List Nat) :=
  if syllableBase ≤ n ∧ n < syllableBase + 11172 then
    let s := n - syllableBase
    let parts := [0x1100 + s / 588, 0x1161 + s % 588 / 28]
    some (if s % 28 = 0 then parts else parts ++ [0x11A7 + s % 28])
  else none

/-- The syllable of a consonant and a vowel, or of a syllable and a trailing consonant. -/
def syllable? (a b : Nat) : Option Nat :=
  if 0x1100 ≤ a ∧ a < 0x1113 ∧ 0x1161 ≤ b ∧ b < 0x1176 then
    some (syllableBase + ((a - 0x1100) * 21 + (b - 0x1161)) * 28)
  else if syllableBase ≤ a ∧ a < syllableBase + 11172 ∧ (a - syllableBase) % 28 = 0 ∧
      0x11A7 < b ∧ b < 0x11C3 then
    some (a + (b - 0x11A7))
  else none

/-! ## Marks -/

/-- The combining class of a code point. -/
def combiningClass (n : Nat) : Nat :=
  if n < 0x300 then 0
  else
    match combiningClasses.find? fun (_, ranges) => ranges.has n with
    | some (k, _) => k
    | none => 0

/-- The parts of a code point, as far as a table of composed characters takes it apart. -/
def decomposed (table : List (Nat × List Nat)) : Nat → Nat → List Nat
  | 0, n => [n]
  | fuel + 1, n =>
    if n < 0xC0 then [n]
    else
      match syllableParts? n with
      | some parts => parts
      | none =>
        match table.lookup n with
        | some [a, b] => decomposed table fuel a ++ [b]
        | _ => [n]

/-- Puts a mark among the marks before it, which are given backwards. -/
def putMark (n : Nat) : List Nat → List Nat
  | [] => [n]
  | m :: before =>
    if 0 < combiningClass n ∧ combiningClass n < combiningClass m then m :: putMark n before
    else n :: m :: before

/-- Marks in the order of their classes. -/
def orderedMarks (ns : List Nat) : List Nat :=
  (ns.foldl (fun before n => putMark n before) []).reverse

/-! ## Composing -/

/-- The code point that two make up. -/
def composed? (a b : Nat) : Option Nat :=
  match syllable? a b with
  | some n => some n
  | none => (compositions.find? fun (_, parts) => parts == [a, b]).map Prod.fst

/-- Joins a starter with the code points after it: `skipped` are those between, backwards, that could
not be joined. -/
def composeFrom (starter : Nat) (skipped : List Nat) : List Nat → List Nat
  | [] => starter :: skipped.reverse
  | n :: rest =>
    let blocked :=
      match skipped with
      | [] => false
      | m :: _ => combiningClass m = 0 ∨ combiningClass n ≤ combiningClass m
    match if blocked then none else composed? starter n with
    | some joined => composeFrom joined skipped rest
    | none =>
      if combiningClass n = 0 then starter :: skipped.reverse ++ composeFrom n [] rest
      else composeFrom starter (n :: skipped) rest

/-- Composes code points from the first starter on. -/
def composeAll : List Nat → List Nat
  | [] => []
  | n :: rest =>
    if combiningClass n = 0 then composeFrom n [] rest else n :: composeAll rest

/-- The composed form of code points. -/
def composedForm (ns : List Nat) : List Nat :=
  composeAll (orderedMarks (ns.flatMap (decomposed compositions 8)))

end GatewayProvisioning.Text
