import GatewayProvisioning.Text.Basic

/-!
The forms of the log.
-/

namespace GatewayProvisioning

/-- How a line of the log is written. -/
inductive LogMode where
  | compact
  | pretty
  | json
  deriving DecidableEq, Repr

/-- The mode of a name of either case; an unknown name means the compact form. -/
def LogMode.ofName (name : String) : LogMode :=
  let lower := Text.asciiLowercase name
  if lower = "json" then .json else if lower = "pretty" then .pretty else .compact

end GatewayProvisioning
