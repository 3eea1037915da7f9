import GatewayProvisioning.Text.Basic

/-!
Sets of characters and maps between them, written as short texts: `41-5A 5F` is a set, and
`41-5A>61` maps a run of characters onto another.
-/

namespace GatewayProvisioning.Text

/-- Inclusive ranges of code points. -/
abbrev Ranges := List (Nat × Nat)

namespace Ranges

/-- Reads `A-B` or `A`, in hexadecimal. -/
def range? (item : List Char) : Option (Nat × Nat) :=
  match splitFirst? (· == '-') item with
  | some (a, b) => do return (← hexNumber? a, ← hexNumber? b)
  | none => (hexNumber? item).map fun n => (n, n)

/-- The ranges written in a text, one per word. -/
def ofText (text : String) : Ranges :=
  (splitWhere isBlank text.toList).filterMap fun item =>
    if item.isEmpty then none else range? item

/-- Whether a code point lies in one of the ranges. -/
def has (ranges : Ranges) (n : Nat) : Bool :=
  ranges.any fun (first, last) => first ≤ n && n ≤ last

/-- Whether a character lies in one of the ranges. -/
def hasChar (ranges : Ranges) (c : Char) : Bool :=
  ranges.has c.toNat

end Ranges

/-- The code points `first`, `first + step`, … up to `last`, mapped in order to those from `target`
on. -/
structure Run where
  first : Nat
  last : Nat
  step : Nat
  target : Nat

namespace Run

/-- Reads `A>C`, `A-B>C` or, for every other code point of the run, `A~B>C`. -/
def ofItem? (item : List Char) : Option Run := do
  let (source, target) ← splitFirst? (· == '>') item
  let target ← hexNumber? target
  match splitFirst? (· == '~') source with
  | some (a, b) => return ⟨← hexNumber? a, ← hexNumber? b, 2, target⟩
  | none =>
    let (first, last) ← Ranges.range? source
    return ⟨first, last, 1, target⟩

/-- The runs written in a text, one per word. -/
def listOfText (text : String) : List Run :=
  (splitWhere isBlank text.toList).filterMap fun item =>
    if item.isEmpty then none else ofItem? item

/-- Where a run sends a code point, if it holds it. -/
def image? (run : Run) (n : Nat) : Option Nat :=
  if run.first ≤ n && n ≤ run.last && (n - run.first) % run.step == 0 then
    some (run.target + (n - run.first))
  else none

end Run

/-- Reads `A>B,C`: a code point and those that it stands for. -/
def row? (item : List Char) : Option (Nat × List Nat) := do
  let (source, targets) ← splitFirst? (· == '>') item
  let row ← (splitWhere (· == ',') targets).mapM fun t => if t.isEmpty then none else hexNumber? t
  return (← hexNumber? source, row)

/-- The rows written in a text, one per word. -/
def rowsOfText (text : String) : List (Nat × List Nat) :=
  (splitWhere isBlank text.toList).filterMap fun item =>
    if item.isEmpty then none else row? item

end GatewayProvisioning.Text
