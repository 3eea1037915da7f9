import GatewayProvisioning.Document.Node

/-!
What a plain scalar means to those who do not want its text: nothing, a truth value, a number, or the
text after all.
-/

namespace GatewayProvisioning.Yaml

open Document

/-- The words for nothing. -/
def nullWords : List String := ["", "~", "null", "Null", "NULL"]

/-- The words for the truth values. -/
def flagWords : List (String × Bool) :=
  [("true", true), ("True", true), ("TRUE", true),
    ("false", false), ("False", false), ("FALSE", false)]

/-- The number that a row of digits writes in a base of at most sixteen. -/
def baseNumber? (base : Nat) (digits : List Char) : Option Nat :=
  if digits.isEmpty then none
  else digits.foldlM (fun n c =>
    match Text.hexValue? c with
    | some d => if d < base then some (base * n + d) else none
    | none => none) 0

/-- The value of the digits of a number, after the mark of its base. -/
def unsigned? : List Char → Option Nat
  | '0' :: 'x' :: digits => baseNumber? 16 digits
  | '0' :: 'o' :: digits => baseNumber? 8 digits
  | '0' :: 'b' :: digits => baseNumber? 2 digits
  | ['0'] => some 0
  | '0' :: _ => none
  | digits => baseNumber? 10 digits

/-- The numeral of the integer that a scalar writes. A zero keeps its minus. -/
def integer? : List Char → Option Decimal.Numeral
  | '-' :: digits => (unsigned? digits).map fun n => { Decimal.Numeral.ofNat n with negative := true }
  | '+' :: digits => (unsigned? digits).map .ofNat
  | digits => (unsigned? digits).map .ofNat

/-- The numeral of a number with a point or an exponent. -/
def fractional? (cs : List Char) : Option Decimal.Numeral := do
  let (negative, cs) := match cs with
    | '-' :: rest => (true, rest)
    | '+' :: rest => (false, rest)
    | rest => (false, rest)
  let whole := cs.takeWhile Text.isDigit
  let (fraction, rest) := match cs.drop whole.length with
    | '.' :: rest => (some (rest.takeWhile Text.isDigit), rest.dropWhile Text.isDigit)
    | rest => (none, rest)
  if whole.isEmpty && (fraction.getD []).isEmpty then none
  else
    let n : Decimal.Numeral := { negative, whole, fraction }
    match rest with
    | [] => if fraction.isSome then some n else none
    | e :: rest =>
      if e = 'e' ∨ e = 'E' then
        let (minus, digits) := match rest with
          | '-' :: rest => (true, rest)
          | '+' :: rest => (false, rest)
          | rest => (false, rest)
        if digits.isEmpty || !digits.all Text.isDigit then none
        else some { n with exponent := some (minus, digits) }
      else none

/-- The words for numbers that no digits write, without their sign. -/
def endlessWords : List String := [".inf", ".Inf", ".INF"]

/-- The words for what is no number. -/
def noNumberWords : List String := [".nan", ".NaN", ".NAN"]

/-- Whether a scalar writes a number without digits. -/
def isSpecialNumber (s : String) : Bool :=
  let positive := match s.toList with
    | '+' :: rest => String.ofList rest
    | _ => s
  endlessWords.contains positive || noNumberWords.contains positive ||
    endlessWords.any fun w => s == "-" ++ w

/-- What a plain scalar means. -/
def meaning (s : String) : Node :=
  if nullWords.contains s then .null
  else
    match flagWords.lookup s with
    | some b => .flag b
    | none =>
      match integer? s.toList with
      | some n => .number n
      | none =>
        match fractional? s.toList with
        | some n => if n.number?.isSome then .number n else .ofText s
        | none =>
          if isSpecialNumber s then .number { negative := false, whole := [], fraction := some [] }
          else .ofText s

end GatewayProvisioning.Yaml
