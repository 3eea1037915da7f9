import GatewayProvisioning.Text.Basic

/-!
Whole numbers in decimal.
-/

namespace GatewayProvisioning.Decimal

/-- The decimal digits of a number, without leading zeros. -/
def digits (n : Nat) : List Char :=
  if n < 10 then [Text.hexDigit n] else digits (n / 10) ++ [Text.hexDigit (n % 10)]
termination_by n
decreasing_by omega

/-- A number in decimal. -/
def ofNat (n : Nat) : String :=
  String.ofList (digits n)

/-- The digits of an integer, after a minus sign if it is negative. -/
def signedDigits : Int → List Char
  | .ofNat n => digits n
  | .negSucc n => '-' :: digits (n + 1)

/-- An integer in decimal. -/
def ofInt (i : Int) : String :=
  String.ofList (signedDigits i)

end GatewayProvisioning.Decimal
