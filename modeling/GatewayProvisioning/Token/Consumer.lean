import GatewayProvisioning.Digest.Hmac
import GatewayProvisioning.Failure
import GatewayProvisioning.Token.Claims

/-!
Tokens that consumers sign with the secret that the gateway has issued to them.
-/

namespace GatewayProvisioning.Token

/-- The claims of a consumer at a time. The gateway finds the credential by the issuer, which is
therefore its key; an empty audience is none. -/
def consumerClaims (key : String) (audience : Option String) (span : Option Duration) (now : Int) :
    ConsumerClaims where
  account := key
  issuer := key
  audience := audience.filter (!·.isEmpty)
  issuedAt := now
  expires := span.map (expiry now)

/-- Signs a token with key and secret of a consumer. -/
def signConsumer (key secret : String) (audience : Option String) (span : Option Duration)
    (now : Int) : Except Failure String :=
  if key.isEmpty || secret.isEmpty then .error (.badCredential .emptyCredential)
  else
    let text := signedText .hs256 (consumerClaims key audience span now).json
    .ok (withSignature text (hmacSha256 (Utf8.encode secret) (Utf8.encode text)))

end GatewayProvisioning.Token
