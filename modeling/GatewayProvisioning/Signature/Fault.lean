/-!
What keeps a private key from signing.
-/

namespace GatewayProvisioning.Signature

/-- What is wrong with a private key. -/
inductive KeyFault where
  | badEncoding
  | badVersion
  | tooSmall
  | tooLarge
  | badComponent
  | inconsistent
  | badCurveKey
  deriving DecidableEq, Repr

/-- The wording of a fault. -/
def KeyFault.message : KeyFault → String
  | .badEncoding => "RSA key invalid: InvalidEncoding"
  | .badVersion => "RSA key invalid: VersionNotSupported"
  | .tooSmall => "RSA key invalid: TooSmall"
  | .tooLarge => "RSA key invalid: TooLarge"
  | .badComponent => "RSA key invalid: InvalidComponent"
  | .inconsistent => "RSA key invalid: InconsistentComponents"
  | .badCurveKey => "InvalidEcdsaKey"

end GatewayProvisioning.Signature
