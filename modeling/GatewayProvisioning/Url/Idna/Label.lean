import GatewayProvisioning.Text.Composition
import GatewayProvisioning.Url.Idna.ClassTable

/-!
When a label of an international domain name may stand as it is: it does not begin with a mark, its
joiners stand where letters join, and letters of both directions do not mix.
-/

namespace GatewayProvisioning.Url.Idna

/-- A label, as its code points. -/
abbrev Label := List Nat

/-! ## Joiners -/

/-- Whether letters join across a place, `before` being given backwards. -/
def joins (before after : Label) : Bool :=
  let left := before.dropWhile fun n => joiningThrough.has n
  let right := after.dropWhile fun n => joiningThrough.has n
  (left.head?.any fun n => joiningLeft.has n || joiningBoth.has n) &&
    (right.head?.any fun n => joiningRight.has n || joiningBoth.has n)

/-- Whether all joiners stand where they may. -/
def joinersAllowed (before : Label) : Label → Bool
  | [] => true
  | n :: rest =>
    let afterVirama := before.head?.any fun m => Text.combiningClass m == 9
    let allowed :=
      if n = 0x200C then afterVirama || joins before rest
      else if n = 0x200D then afterVirama
      else true
    allowed && joinersAllowed (n :: before) rest

/-! ## Directions -/

/-- The directions that matter to a label. -/
inductive Direction where
  | left
  | right
  | arabicNumber
  | europeanNumber
  | mark
  | neutral
  deriving DecidableEq, Repr

/-- The direction of a code point. -/
def Direction.of (n : Nat) : Direction :=
  if rightToLeft.has n || arabicLetter.has n then .right
  else if Idna.arabicNumber.has n then .arabicNumber
  else if Idna.europeanNumber.has n then .europeanNumber
  else if nonspacingMark.has n then .mark
  else if europeanSeparator.has n || commonSeparator.has n || europeanTerminator.has n ||
      otherNeutral.has n || boundaryNeutral.has n then .neutral
  else .left

/-- Whether a label makes the directions of a name matter. -/
def runsRightToLeft (label : Label) : Bool :=
  label.any fun n => Direction.of n == .right || Direction.of n == .arabicNumber

/-- Whether the directions of a label go together. -/
def directionsAllowed (label : Label) : Bool :=
  let directions := label.map Direction.of
  let last := (directions.reverse.dropWhile (· == .mark)).head?
  match directions.head? with
  | none => true
  | some .right =>
    !directions.contains .left &&
      (last == some .right || last == some .europeanNumber || last == some .arabicNumber) &&
      !(directions.contains .europeanNumber && directions.contains .arabicNumber)
  | some .left =>
    !directions.contains .right && !directions.contains .arabicNumber &&
      (last == some .left || last == some .europeanNumber)
  | some _ => false

/-- Whether a label may stand, the directions apart. -/
def labelAllowed (label : Label) : Bool :=
  !(label.head?.any fun n => marks.has n) && joinersAllowed [] label

end GatewayProvisioning.Url.Idna
