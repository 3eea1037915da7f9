import GatewayProvisioning.Text.Basic
import GatewayProvisioning.Token.Claims

/-!
Spans of time as people write them: numbers with units, one after the other, such as `1h 30m`. A
number may have a fraction if the whole span remains exact. Every count fits into 64 bits.
-/

namespace GatewayProvisioning

/-- The number of nanoseconds of a second. -/
def nanosecondsPerSecond : Nat := 1000000000

/-- A unit of time: how long it is, and in which of the two counts of a duration it is measured. A
fraction may be measured more finely than whole units are. -/
structure TimeUnit where
  seconds : Nat := 0
  nanoseconds : Nat := 0
  fraction : Nat := 0
  deriving DecidableEq, Repr

namespace TimeUnit

/-- A unit of nanoseconds. One nanosecond has no fractions. -/
def fine (nanoseconds : Nat) : TimeUnit :=
  { nanoseconds, fraction := if nanoseconds = 1 then 0 else nanoseconds }

/-- A unit of seconds, the fractions of which may take nanoseconds. -/
def coarse (seconds : Nat) : TimeUnit :=
  { seconds, fraction := seconds * nanosecondsPerSecond }

/-- A unit of seconds, the fractions of which are whole seconds. -/
def long (seconds : Nat) : TimeUnit :=
  { seconds }

/-- The units and their names. A month is the twelfth part of a year, to the hundredth of a day. -/
def names : List (List String × TimeUnit) :=
  [(["nanos", "nsec", "ns"], fine 1),
    (["usec", "us", "µs"], fine 1000),
    (["millis", "msec", "ms"], fine 1000000),
    (["seconds", "second", "secs", "sec", "s"], coarse 1),
    (["minutes", "minute", "mins", "min", "m"], coarse 60),
    (["hours", "hour", "hrs", "hr", "h"], long 3600),
    (["days", "day", "d"], long 86400),
    (["weeks", "week", "wks", "wk", "w"], long 604800),
    (["months", "month", "M"], long 2630016),
    (["years", "year", "yrs", "yr", "y"], long 31557600)]

/-- The unit of a name. -/
def ofName? (name : String) : Option TimeUnit :=
  (names.find? fun (spellings, _) => spellings.contains name).map Prod.snd

end TimeUnit

namespace Duration

/-- A count, if it fits into 64 bits. -/
def count? (n : Nat) : Option Nat :=
  if n < UInt64.size then some n else none

/-- The quotient of two counts, if nothing remains. -/
def exactQuotient? (n d : Nat) : Option Nat :=
  if n % d = 0 then some (n / d) else none

/-- A duration with seconds and nanoseconds added. -/
def add? (d : Duration) (seconds nanoseconds : Nat) : Option Duration := do
  let nanoseconds ← count? (d.nanoseconds + nanoseconds)
  let seconds ← count? (d.seconds + seconds + nanoseconds / nanosecondsPerSecond)
  return ⟨seconds, nanoseconds % nanosecondsPerSecond⟩

/-- A duration with a fraction of a unit added. -/
def addFraction? (d : Duration) (u : TimeUnit) (numerator denominator : Nat) : Option Duration := do
  if 0 < u.fraction then
    let nanoseconds ← exactQuotient? (← count? (numerator * u.fraction)) denominator
    d.add? 0 nanoseconds
  else if 0 < u.seconds then
    let seconds ← exactQuotient? (← count? (numerator * u.seconds)) denominator
    d.add? seconds 0
  else none

/-- A duration with a number of units added; the fraction is given by numerator and denominator. -/
def addSpan? (d : Duration) (n : Nat) (fraction : Option (Nat × Nat)) (unit : List Char) :
    Option Duration := do
  let u ← TimeUnit.ofName? (String.ofList unit.reverse)
  let d ← d.add? (← count? (n * u.seconds)) (← count? (n * u.nanoseconds))
  match fraction with
  | none => return d
  | some (numerator, denominator) => d.addFraction? u numerator denominator

/-- What a reader of a span is in the middle of: nothing, a number, its fraction, or the name of its
unit, which is there backwards. -/
inductive SpanState where
  | between
  | whole (n : Nat)
  | fraction (n numerator denominator : Nat)
  | unit (n : Nat) (fraction : Option (Nat × Nat)) (letters : List Char)

/-- The letters of units. -/
def isUnitChar (c : Char) : Bool :=
  c.isAlpha || c == 'µ'

/-- Reads spans and adds them to a duration. -/
def readSpans (d : Duration) : SpanState → List Char → Option Duration
  | .between, [] => some d
  | .whole _, [] => none
  | .fraction .., [] => none
  | .unit n fraction letters, [] => d.addSpan? n fraction letters
  | .between, c :: cs =>
    if Text.isDigit c then readSpans d (.whole (Text.digitValue c)) cs
    else if Text.isBlank c then readSpans d .between cs
    else none
  | .whole n, c :: cs =>
    if Text.isDigit c then do
      let n ← count? (10 * n + Text.digitValue c)
      readSpans d (.whole n) cs
    else if Text.isBlank c then readSpans d (.whole n) cs
    else if isUnitChar c then readSpans d (.unit n none [c]) cs
    else if c == '.' then readSpans d (.fraction n 0 1) cs
    else none
  | .fraction n numerator denominator, c :: cs =>
    if Text.isDigit c then do
      let denominator ← count? (10 * denominator)
      let numerator ← count? (10 * numerator + Text.digitValue c)
      readSpans d (.fraction n numerator denominator) cs
    else if Text.isBlank c then readSpans d (.fraction n numerator denominator) cs
    else if isUnitChar c && denominator ≠ 1 then
      readSpans d (.unit n (some (numerator, denominator)) [c]) cs
    else none
  | .unit n fraction letters, c :: cs =>
    if Text.isDigit c then do
      let d ← d.addSpan? n fraction letters
      readSpans d (.whole (Text.digitValue c)) cs
    else if Text.isBlank c then do
      let d ← d.addSpan? n fraction letters
      readSpans d .between cs
    else if isUnitChar c then readSpans d (.unit n fraction (c :: letters)) cs
    else none

/-- The duration that a text writes. Nothing at all is no duration, and a zero needs no unit. -/
def read? (s : String) : Option Duration :=
  if s = "0" then some ⟨0, 0⟩
  else if Text.isAllBlank s then none
  else readSpans ⟨0, 0⟩ .between s.toList

end Duration

end GatewayProvisioning
