import GatewayProvisioning.Pem.Section
import GatewayProvisioning.Tls.Anchor

/-!
What a client of the network is told: whether to trust every server, which authorities to trust
besides the usual ones, and how long to wait.
-/

namespace GatewayProvisioning

/-- What a client of the network is told. -/
structure ClientOptions where
  skipVerify : Bool
  authorities : Option Bytes
  timeoutMillis : Nat
  deriving DecidableEq, Repr

/-- Refuses options with which no client can be made. Authorities do not matter to a client that
trusts every server. -/
def ClientOptions.validate (o : ClientOptions) : Except Failure Unit :=
  match o.skipVerify, o.authorities with
  | false, some bundle =>
    match Pem.certificates bundle with
    | .error _ => .error (.badConfig .badBundle)
    | .ok [] => .error (.badConfig .emptyBundle)
    | .ok found =>
      if found.all Tls.isAnchor then .ok () else .error (.badConfig .badAuthority)
  | _, _ => .ok ()

end GatewayProvisioning
