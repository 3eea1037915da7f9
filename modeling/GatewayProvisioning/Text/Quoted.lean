import GatewayProvisioning.Text.PrintTable

/-!
Quoted texts, as messages show them: between double quotes, with escapes for the characters that a
reader could not tell apart or could not see.
-/

namespace GatewayProvisioning.Text

/-- The digits of a number in hexadecimal, without leading zeros. -/
def hexDigits (n : Nat) : List Char :=
  if n < 16 then [hexDigit n] else hexDigits (n / 16) ++ [hexDigit (n % 16)]
termination_by n
decreasing_by omega

/-- How a character is written between the quotes. -/
def quotedChar (c : Char) : List Char :=
  if c == '"' then ['\\', '"']
  else if c == '\\' then ['\\', '\\']
  else if c == '\n' then ['\\', 'n']
  else if c == '\r' then ['\\', 'r']
  else if c == '\t' then ['\\', 't']
  else if c == Char.ofNat 0 then ['\\', '0']
  else if unprintable.hasChar c || extending.hasChar c then
    ['\\', 'u', Char.ofNat 0x7B] ++ hexDigits c.toNat ++ [Char.ofNat 0x7D]
  else [c]

/-- A text between double quotes. -/
def quoted (s : String) : String :=
  String.ofList ('"' :: s.toList.flatMap quotedChar ++ ['"'])

end GatewayProvisioning.Text
