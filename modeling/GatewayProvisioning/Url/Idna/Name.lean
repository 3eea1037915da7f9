import GatewayProvisioning.Url.Idna.Label
import GatewayProvisioning.Url.Idna.MappingTable
import GatewayProvisioning.Url.Idna.Punycode

/-!
International domain names in ASCII. Characters are mapped and composed first; then each label that
is not ASCII is written in punycode after the mark `xn--`.
-/

namespace GatewayProvisioning.Url.Idna

/-- What a code point is written as; `none` if it is not allowed. -/
def mapped? (n : Nat) : Option (List Nat) :=
  if n < 0x80 then some [if 0x41 ≤ n ∧ n ≤ 0x5A then n + 32 else n]
  else if ignored.has n then some []
  else if disallowed.has n then none
  else
    match mappedRuns.findSome? (·.image? n) with
    | some m => some [m]
    | none => some ((mappedRows.lookup n).getD [n])

/-- Whether a code point is written as itself. -/
def isStable (n : Nat) : Bool :=
  mapped? n == some [n]

/-- The ASCII characters that may not stand in a name. -/
def isForbidden (n : Nat) : Bool :=
  n ≤ 0x20 || n == 0x7F || (n < 0x80 && "%#/:<>?@[\\]^|".toList.contains (Char.ofNat n))

/-- The mark of a label in punycode. -/
def mark : Label :=
  "xn--".toList.map Char.toNat

/-- Whether a label is all ASCII. -/
def isAscii (label : Label) : Bool :=
  label.all (· < 0x80)

/-- The label that a mapped label stands for; `none` if it stands for none. -/
def meaning? (label : Label) : Option Label :=
  if mark.isPrefixOf label then
    if isAscii label then do
      let decoded ← Punycode.decode? ((label.drop mark.length).map Char.ofNat)
      if !isAscii decoded && decoded.all isStable && Text.composedForm decoded == decoded then
        some decoded
      else none
    else none
  else some label

/-- A label in ASCII. -/
def written (label : Label) : List Char :=
  if isAscii label then label.map Char.ofNat
  else mark.map Char.ofNat ++ Punycode.encode label

/-- Rows of characters with dots between them. -/
def dotted : List (List Char) → List Char
  | [] => []
  | [label] => label
  | label :: labels => label ++ '.' :: dotted labels

/-- A name in ASCII; `none` if it is no name. -/
def toAscii? (name : String) : Option String := do
  let rows ← name.toList.mapM fun c => mapped? c.toNat
  let composed := Text.composedForm rows.flatten
  let labels ← (Text.splitWhere (· == '.'.toNat) composed).mapM meaning?
  if labels.any fun label => label.any isForbidden || !labelAllowed label then none
  else if labels.any runsRightToLeft && labels.any fun label => !directionsAllowed label then none
  else some (String.ofList (dotted (labels.map written)))

end GatewayProvisioning.Url.Idna
