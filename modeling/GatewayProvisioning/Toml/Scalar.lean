import GatewayProvisioning.Toml.Item
import GatewayProvisioning.Text.Basic

/-!
The scalars of TOML that stand without quotes: truth values, integers, floating point numbers, dates
and times.
-/

namespace GatewayProvisioning.Toml

/-! ## Numbers -/

/-- The digits of a row in which single underscores may stand between digits. -/
def grouped? (isDigit : Char → Bool) : List Char → Option (List Char)
  | [] => none
  | [c] => if isDigit c then some [c] else none
  | c :: '_' :: rest => if isDigit c then (grouped? isDigit rest).map (c :: ·) else none
  | c :: rest => if isDigit c then (grouped? isDigit rest).map (c :: ·) else none

/-- The digits of a decimal number, which has no leading zero. -/
def decimalDigits? (cs : List Char) : Option (List Char) := do
  let digits ← grouped? Text.isDigit cs
  if 1 < digits.length && digits.head? == some '0' then none else some digits

/-- The number that digits of a base write. -/
def baseNumber? (base : Nat) (cs : List Char) : Option Nat := do
  let digits ← grouped? (fun c => (Text.hexValue? c).any (· < base)) cs
  return digits.foldl (fun n c => base * n + (Text.hexValue? c).getD 0) 0

/-- A text without its sign, and whether that is a minus. -/
def unsigned : List Char → Bool × List Char
  | '-' :: rest => (true, rest)
  | '+' :: rest => (false, rest)
  | rest => (false, rest)

/-- The integer that a text writes. It fits into 64 bits, with or without a sign. -/
def integer? (cs : List Char) : Option Int := do
  let i : Int ← match cs with
    | '0' :: 'x' :: digits => (baseNumber? 16 digits).map Int.ofNat
    | '0' :: 'o' :: digits => (baseNumber? 8 digits).map Int.ofNat
    | '0' :: 'b' :: digits => (baseNumber? 2 digits).map Int.ofNat
    | cs => do
      let (minus, digits) := unsigned cs
      let n := Text.decimalValue (← decimalDigits? digits)
      return if minus then -(n : Int) else n
  if -0x8000000000000000 ≤ i && i < UInt64.size then some i else none

/-- Whether a text is the exponent of a number, after its letter. -/
def isExponent (cs : List Char) : Bool :=
  (grouped? Text.isDigit (unsigned cs).2).isSome

/-- Whether a text writes a floating point number. -/
def isFloat (cs : List Char) : Bool :=
  let body := (unsigned cs).2
  if body = "inf".toList ∨ body = "nan".toList then true
  else
    let isLetter (c : Char) : Bool := c == 'e' || c == 'E'
    let mantissa := body.takeWhile (!isLetter ·)
    let exponent := (body.drop mantissa.length).tail
    let hasExponent := body.any isLetter
    let fits := !hasExponent || isExponent exponent
    match Text.splitFirst? (· == '.') mantissa with
    | none => hasExponent && fits && (decimalDigits? mantissa).isSome
    | some (whole, fraction) =>
      fits && (decimalDigits? whole).isSome && (grouped? Text.isDigit fraction).isSome

/-! ## Dates and times -/

/-- A number of exactly so many digits, and what follows it. -/
def digits? (n : Nat) (cs : List Char) : Option (Nat × List Char) :=
  let ds := cs.take n
  if ds.length = n ∧ ds.all Text.isDigit then some (Text.decimalValue ds, cs.drop n) else none

/-- What follows a character. -/
def after? (c : Char) : List Char → Option (List Char)
  | d :: rest => if c = d then some rest else none
  | [] => none

/-- The number of days of a month. -/
def daysOf (year month : Nat) : Nat :=
  if month = 2 then
    if year % 4 = 0 ∧ (year % 100 ≠ 0 ∨ year % 400 = 0) then 29 else 28
  else if month = 4 ∨ month = 6 ∨ month = 9 ∨ month = 11 then 30
  else 31

/-- What follows a date. -/
def date? (cs : List Char) : Option (List Char) := do
  let (year, cs) ← digits? 4 cs
  let (month, cs) ← digits? 2 (← after? '-' cs)
  let (day, cs) ← digits? 2 (← after? '-' cs)
  if 1 ≤ month ∧ month ≤ 12 ∧ 1 ≤ day ∧ day ≤ daysOf year month then some cs else none

/-- What follows a time of the day. The seconds may be left out. -/
def time? (cs : List Char) : Option (List Char) := do
  let (hour, cs) ← digits? 2 cs
  let (minute, cs) ← digits? 2 (← after? ':' cs)
  if 23 < hour ∨ 59 < minute then none
  else
    match cs with
    | ':' :: cs => do
      let (second, cs) ← digits? 2 cs
      if 60 < second then none
      else
        match cs with
        | '.' :: c :: rest =>
          if Text.isDigit c then some (rest.dropWhile Text.isDigit) else none
        | ['.'] => none
        | cs => some cs
    | cs => some cs

/-- Whether a text is the distance of a time from world time. -/
def isOffset (cs : List Char) : Bool :=
  match cs with
  | [c] => c == 'z' || c == 'Z'
  | c :: rest =>
    (c == '+' || c == '-') &&
      ((do
        let (hour, rest) ← digits? 2 rest
        let (minute, rest) ← digits? 2 (← after? ':' rest)
        return decide (hour ≤ 23 ∧ minute ≤ 59) && rest.isEmpty : Option Bool).getD false)
  | [] => false

/-- Whether a text writes a date, a time or both. -/
def isMoment (cs : List Char) : Bool :=
  match date? cs with
  | some [] => true
  | some (c :: rest) =>
    (c == 'T' || c == 't' || c == ' ') &&
      (time? rest).any fun rest => rest.isEmpty || isOffset rest
  | none => (time? cs).any (·.isEmpty)

/-! ## Scalars -/

/-- The characters of scalars without quotes. -/
def isScalarChar (c : Char) : Bool :=
  c.isAlphanum || c == '_' || c == '+' || c == '-' || c == '.' || c == ':'

/-- The scalar that a text begins with, and what follows it. A blank may stand between a date and a
time. -/
def splitScalar (cs : List Char) : List Char × List Char :=
  let first := cs.takeWhile isScalarChar
  let rest := cs.drop first.length
  match rest with
  | ' ' :: d :: others =>
    if date? first = some [] ∧ Text.isDigit d then
      let second := (d :: others).takeWhile isScalarChar
      (first ++ ' ' :: second, (d :: others).drop second.length)
    else (first, rest)
  | _ => (first, rest)

/-- The value of a scalar. -/
def scalar? (cs : List Char) : Option Item :=
  if cs = "true".toList then some (.flag true)
  else if cs = "false".toList then some (.flag false)
  else
    match integer? cs with
    | some i => some (.integer i)
    | none =>
      if isFloat cs then some .float
      else if isMoment cs then some (.moment (String.ofList cs))
      else none

end GatewayProvisioning.Toml
