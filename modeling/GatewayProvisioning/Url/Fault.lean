/-!
What keeps a text from being a URL.
-/

namespace GatewayProvisioning.Url

/-- What is wrong with a text that is no URL. -/
inductive Fault where
  | relative
  | emptyHost
  | badPort
  | badIpv4
  | badIpv6
  | badInternationalName
  | badCharacter
  deriving DecidableEq, Repr

/-- The wording of a fault. -/
def Fault.message : Fault → String
  | .relative => "relative URL without a base"
  | .emptyHost => "empty host"
  | .badPort => "invalid port number"
  | .badIpv4 => "invalid IPv4 address"
  | .badIpv6 => "invalid IPv6 address"
  | .badInternationalName => "invalid international domain name"
  | .badCharacter => "invalid domain character"

end GatewayProvisioning.Url
