import GatewayProvisioning.Admin.Client
import GatewayProvisioning.Gateway.Certificate
import GatewayProvisioning.Gateway.Settings
import GatewayProvisioning.Token.File

/-!
The secret store, which holds the certificate of the gateway.
-/

namespace GatewayProvisioning.SecretStoreSettings

/-- The header that carries the token of the secret store. -/
def tokenHeader : String := "X-Vault-Token"

/-- The address of the certificate. -/
def certUrl (s : SecretStoreSettings) : String :=
  Url.join s.base [s.certPath]

/-- Checks that the secret store is up: only status 200 counts. -/
def checkStatus (s : SecretStoreSettings) : Dialogue Unit := do
  let r ← Dialogue.send { method := .get, url := s.base }
  if r.isOk then pure () else .fail (.refused s.base r.status r.body)

/-- The certificate of the gateway and its key. -/
def load (s : SecretStoreSettings) (files : FileSource) : Dialogue CertPair := do
  let token ← Dialogue.ofResult (Token.load files s.tokenFile)
  let request : Request := { method := .get, url := s.certUrl, headers := [(tokenHeader, token)] }
  let r ← Dialogue.send request
  if r.isOk then
    .ofResult (AdminClient.decodeFrom CertPair.secretCodec s.certUrl r.body)
  else
    .fail (.refused s.certUrl r.status
      ("failed to read certificate at " ++ s.certPath ++ ": " ++ r.body))

/-- The certificate and its key, neither of which is empty. -/
def loadValidated (s : SecretStoreSettings) (files : FileSource) : Dialogue CertPair := do
  let pair ← s.load files
  Dialogue.ofResult pair.validate
  pure pair

end GatewayProvisioning.SecretStoreSettings
