import GatewayProvisioning.Files.Install
import GatewayProvisioning.Pem.Section

/-!
Installing a certificate and its private key. Both are read and looked at before either is written.
-/

namespace GatewayProvisioning

/-- Where a certificate and its key are installed. -/
structure TlsDestination where
  folder : String
  certName : String
  keyName : String
  owner : Option Owner

namespace TlsDestination

/-- The mode of an installed certificate. -/
def certMode : Nat := 0o644

/-- The mode of an installed key. -/
def keyMode : Nat := 0o600

/-- Installs the pair in the files of the given paths and answers the paths of the new files. -/
def install (d : TlsDestination) (certPath keyPath : String) : FileAction (String × String) := do
  let cert ← FileAction.read certPath
  let key ← FileAction.read keyPath
  Pem.validatePair cert certPath key keyPath
  let certTarget ← Install.file d.folder d.certName cert certMode d.owner
  let keyTarget ← Install.file d.folder d.keyName key keyMode d.owner
  return (certTarget, keyTarget)

end TlsDestination

end GatewayProvisioning
