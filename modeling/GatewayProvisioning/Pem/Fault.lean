import GatewayProvisioning.Text.Quoted

/-!
What can be wrong with a file of PEM sections.
-/

namespace GatewayProvisioning.Pem

/-- What is wrong with the base64 text of a section. -/
inductive Base64Fault where
  | badCharacter (byte : Nat)
  | earlyPadding
  | badPadding
  deriving DecidableEq, Repr

/-- What is wrong with a file of sections. -/
inductive Fault where
  | badStart (line : String)
  | noEnd (label : String)
  | badBase64 (fault : Base64Fault)
  deriving DecidableEq, Repr

/-- The wording of a fault of base64 text. -/
def Base64Fault.message : Base64Fault → String
  | .badCharacter byte => "InvalidCharacter(" ++ toString byte ++ ")"
  | .earlyPadding => "PrematurePadding"
  | .badPadding => "InvalidTrailingPadding"

/-- The wording of a fault. -/
def Fault.message : Fault → String
  | .badStart line => "illegal section start: " ++ Text.quoted line
  | .noEnd label => "section end " ++ Text.quoted label ++ " missing"
  | .badBase64 fault => fault.message

end GatewayProvisioning.Pem
