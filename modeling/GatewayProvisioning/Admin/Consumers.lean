import GatewayProvisioning.Admin.Client
import GatewayProvisioning.Gateway.Consumer
import GatewayProvisioning.Gateway.Settings
import GatewayProvisioning.Token.Consumer

/-!
Consumers of the gateway: creating and deleting them, their groups, credentials and tokens.
-/

namespace GatewayProvisioning

open Document

/-- What a token is to be for, and how long it is to live. -/
structure TokenOptions where
  audience : Option String := none
  span : Option Duration := none
  deriving DecidableEq, Repr

/-- Access to the consumers of a gateway. -/
structure Consumers where
  admin : AdminClient
  gateway : GatewaySettings
  auth : AuthMethod

namespace Consumers

/-- The path of a consumer. -/
def path (name : String) : String :=
  "consumers/" ++ Url.encodeSegment name

/-- Creates a consumer; it may be there already. -/
def create (c : Consumers) (name : String) : Dialogue Created := do
  let r ← c.admin.putEmpty (path name)
  .ofResult (c.admin.created (path name) r)

/-- Makes a consumer a member of a group. -/
def join (c : Consumers) (name group : String) : Dialogue Created := do
  let groups := path name ++ "/acls"
  let r ← c.admin.postForm groups [("group", group)]
  .ofResult (c.admin.created groups r)

/-- Deletes a consumer. -/
def delete (c : Consumers) (name : String) : Dialogue Unit :=
  c.admin.remove "consumers" name

/-- The fields of the request for client credentials. -/
def applicationForm (name : String) (settings : OAuth2Settings) : Url.Form :=
  let client := ClientCredential.ofConsumer name
  [("name", name), ("client_id", client.clientId), ("client_secret", client.clientSecret),
    ("redirect_uris", settings.redirectUris)]

/-- Has the gateway issue a credential to a consumer. -/
def issueCredential (c : Consumers) (name : String) : Dialogue Material :=
  match c.auth with
  | .jwt => do
    let target := path name ++ "/jwt"
    let r ← c.admin.postEmpty target
    if r.isCreated then
      .ofResult ((AdminClient.decodeFrom JwtCredential.codec (c.admin.url target) r.body).map .jwt)
    else .fail (.refused (c.admin.url target) r.status r.body)
  | .oauth2 settings => do
    let target := path name ++ "/oauth2"
    let r ← c.admin.postForm target (applicationForm name settings)
    let _ ← Dialogue.ofResult (c.admin.created target r)
    pure (.oauth2 (.ofConsumer name))

/-- The fields of the request for a token. -/
def tokenForm (client : ClientCredential) (settings : OAuth2Settings) : Url.Form :=
  [("client_id", client.clientId), ("client_secret", client.clientSecret),
    ("grant_type", "client_credentials"), ("scope", settings.scope)]

/-- Has the gateway issue a token to a client. The address is public, so the request carries no token
of its own. -/
def requestToken (c : Consumers) (client : ClientCredential) (settings : OAuth2Settings) :
    Dialogue AccessToken := do
  let url := c.gateway.tokenEndpoint settings.resource
  let r ← Dialogue.send { method := .post, url, body := .form (tokenForm client settings) }
  if r.isCreated then .ofResult (AdminClient.decodeFrom AccessToken.codec url r.body)
  else .fail (.refused url r.status r.body)

/-- The lifetime that is told with a token; zero stands for no end. -/
def lifetime (span : Option Duration) : UInt64 :=
  match span with
  | some d => UInt64.ofNat d.seconds
  | none => 0

/-- Turns a credential into a token at a time. -/
def exchange (c : Consumers) (now : Int) (material : Material) (options : TokenOptions) :
    Dialogue AccessToken :=
  match material, c.auth with
  | .jwt credential, _ => do
    let value ← Dialogue.ofResult
      (Token.signConsumer credential.key credential.secret options.audience options.span now)
    pure { value, tokenType := "bearer", expiresIn := lifetime options.span }
  | .oauth2 client, .oauth2 settings => c.requestToken client settings
  | .oauth2 _, .jwt => .fail (.badCredential .wrongMaterial)

/-- Issues a credential to a consumer and turns it into a token. -/
def createToken (c : Consumers) (now : Int) (name : String) (options : TokenOptions) :
    Dialogue AccessToken := do
  let material ← c.issueCredential name
  c.exchange now material options

/-- Creates a consumer, makes it a member of groups and gives it a token. -/
def addUser (c : Consumers) (now : Int) (name : String) (groups : List String)
    (options : TokenOptions) : Dialogue (Consumer × AccessToken) := do
  let _ ← c.create name
  Dialogue.forEach (fun group => do let _ ← c.join name group) groups
  let token ← c.createToken now name options
  pure ({ name, groups, kind := c.auth.kind }, token)

end Consumers

end GatewayProvisioning
