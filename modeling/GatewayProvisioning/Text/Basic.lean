/-!
Text as lists of characters: blank characters, trimming, splitting at a separator, and lists written
with commas. A string is cut and trimmed through its characters, so every statement about these
functions is a statement about lists.
-/

namespace GatewayProvisioning.Text

/-! ## Blank characters -/

/-- The characters with the Unicode property `White_Space`. -/
def isBlank (c : Char) : Bool :=
  let n := c.toNat
  (0x09 ≤ n && n ≤ 0x0D) || n == 0x20 || n == 0x85 || n == 0xA0 || n == 0x1680 ||
    (0x2000 ≤ n && n ≤ 0x200A) || n == 0x2028 || n == 0x2029 || n == 0x202F || n == 0x205F ||
    n == 0x3000

/-! ## Trimming -/

/-- Drops the longest suffix whose members all satisfy `p`. -/
def dropEndWhile {α : Type} (p : α → Bool) (xs : List α) : List α :=
  (xs.reverse.dropWhile p).reverse

/-- Drops members that satisfy `p` from both ends. -/
def dropBothWhile {α : Type} (p : α → Bool) (xs : List α) : List α :=
  dropEndWhile p (xs.dropWhile p)

/-- A text without the blanks around it. -/
def trim (s : String) : String :=
  String.ofList (dropBothWhile isBlank s.toList)

/-- A text that holds nothing but blanks. -/
def isAllBlank (s : String) : Bool :=
  s.toList.all isBlank

/-! ## Splitting -/

/-- The parts of a list between the members that satisfy `p`; there is always one part more than
there are such members. -/
def splitWhere {α : Type} (p : α → Bool) : List α → List (List α)
  | [] => [[]]
  | x :: xs =>
    if p x then [] :: splitWhere p xs
    else
      match splitWhere p xs with
      | [] => [[x]]
      | part :: parts => (x :: part) :: parts

/-- Splits at the first member that satisfies `p`, which belongs to neither side. -/
def splitFirst? {α : Type} (p : α → Bool) : List α → Option (List α × List α)
  | [] => none
  | x :: xs =>
    if p x then some ([], xs)
    else (splitFirst? p xs).map fun (before, after) => (x :: before, after)

/-- Splits at the last member that satisfies `p`, which belongs to neither side. -/
def splitLast? {α : Type} (p : α → Bool) (xs : List α) : Option (List α × List α) :=
  (splitFirst? p xs.reverse).map fun (after, before) => (before.reverse, after.reverse)

/-- Splits before the first occurrence of `mark`; the right side is what follows the mark. -/
def splitAtMark? {α : Type} [DecidableEq α] (mark : List α) : List α → Option (List α × List α)
  | [] => if mark = [] then some ([], []) else none
  | x :: xs =>
    if mark.isPrefixOf (x :: xs) then some ([], (x :: xs).drop mark.length)
    else (splitAtMark? mark xs).map fun (before, after) => (x :: before, after)

/-- The items of a comma separated list: trimmed, and those that are blank left out. -/
def commaItems (list : String) : List String :=
  ((splitWhere (· == ',') list.toList).map (dropBothWhile isBlank)).filterMap fun item =>
    if item.isEmpty then none else some (String.ofList item)

/-- A list without the members that have occurred before. -/
def firstOccurrences {α : Type} [DecidableEq α] : List α → List α → List α
  | _, [] => []
  | seen, x :: xs =>
    if x ∈ seen then firstOccurrences seen xs else x :: firstOccurrences (x :: seen) xs

/-- `base` followed by `extra`, each text kept where it occurs first. -/
def mergeUnique (base extra : List String) : List String :=
  firstOccurrences [] (base ++ extra)

/-! ## Letters and digits -/

/-- The lower case of an ASCII letter; every other character is left alone. -/
def asciiLower (c : Char) : Char :=
  if 'A' ≤ c && c ≤ 'Z' then Char.ofNat (c.toNat + 32) else c

/-- The upper case of an ASCII letter; every other character is left alone. -/
def asciiUpper (c : Char) : Char :=
  if 'a' ≤ c && c ≤ 'z' then Char.ofNat (c.toNat - 32) else c

/-- A text with its ASCII letters in lower case. -/
def asciiLowercase (s : String) : String :=
  String.ofList (s.toList.map asciiLower)

/-- A text with its ASCII letters in upper case. -/
def asciiUppercase (s : String) : String :=
  String.ofList (s.toList.map asciiUpper)

/-- Equality of texts up to the case of ASCII letters. -/
def equalIgnoringAsciiCase (s t : String) : Bool :=
  asciiLowercase s == asciiLowercase t

/-- The characters `0` to `9`. -/
def isDigit (c : Char) : Bool :=
  '0' ≤ c && c ≤ '9'

/-- The number a decimal digit stands for. -/
def digitValue (c : Char) : Nat :=
  c.toNat - '0'.toNat

/-- The number that a row of decimal digits writes. -/
def decimalValue (digits : List Char) : Nat :=
  digits.foldl (fun n c => 10 * n + digitValue c) 0

/-- The value of a hexadecimal digit of either case. -/
def hexValue? (c : Char) : Option Nat :=
  if isDigit c then some (digitValue c)
  else if 'a' ≤ c && c ≤ 'f' then some (c.toNat - 'a'.toNat + 10)
  else if 'A' ≤ c && c ≤ 'F' then some (c.toNat - 'A'.toNat + 10)
  else none

/-- The hexadecimal digit of a number below sixteen, in lower case. -/
def hexDigit (n : Nat) : Char :=
  if n < 10 then Char.ofNat ('0'.toNat + n) else Char.ofNat ('a'.toNat + n - 10)

/-- The hexadecimal digit of a number below sixteen, in upper case. -/
def hexDigitUpper (n : Nat) : Char :=
  if n < 10 then Char.ofNat ('0'.toNat + n) else Char.ofNat ('A'.toNat + n - 10)

/-- The number that a row of hexadecimal digits writes, if all are digits. -/
def hexNumber? (digits : List Char) : Option Nat :=
  digits.foldlM (fun n c => (hexValue? c).map (16 * n + ·)) 0

end GatewayProvisioning.Text
