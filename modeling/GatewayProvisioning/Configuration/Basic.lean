import GatewayProvisioning.Admin.Provisioning
import GatewayProvisioning.Configuration.Fault
import GatewayProvisioning.Gateway.RouteList
import GatewayProvisioning.Tls.Install
import GatewayProvisioning.Tls.Options

/-!
The configuration of the program: the settings of all its parts. Every setting has a default. The
environment may add routes and choose the level of the log.
-/

namespace GatewayProvisioning

open Document

/-! ## Settings of the program itself -/

/-- Owners of files in documents. -/
def Owner.codec : Codec Owner :=
  (Codec.record "struct OwnerCfg" <|
      .field (.required "uid" .uint32) <|
      .field (.required "gid" .uint32) .none).along
    (fun (user, group, ()) => ⟨user, group⟩)
    (fun o => (o.user, o.group, ()))

/-- Where a certificate and its key are installed unless the caller says otherwise. -/
structure TlsSettings where
  folder : String := "/etc/kong/ssl"
  certName : String := "kong.crt"
  keyName : String := "kong.key"
  owner : Option Owner := none
  deriving DecidableEq, Repr

/-- The owner of installed files, which is written only if there is one. -/
def TlsSettings.ownerField : Document.Field (Option Owner) :=
  { name := "owner", codec := .optional Owner.codec, fallback := some none, omits := Option.isNone }

/-- Settings for installed files in documents. -/
def TlsSettings.codec : Codec TlsSettings :=
  (Codec.record "struct TlsInstallCfg" <|
      .field (.defaulted "target_folder" .text "/etc/kong/ssl") <|
      .field (.defaulted "cert_filename" .text "kong.crt") <|
      .field (.defaulted "key_filename" .text "kong.key") <|
      .field TlsSettings.ownerField .none).along
    (fun (folder, certName, keyName, owner, ()) => { folder, certName, keyName, owner })
    (fun s => (s.folder, s.certName, s.keyName, s.owner, ()))

/-- What the log tells and how it is written. -/
structure LogSettings where
  level : String := "info"
  mode : String := "compact"
  deriving DecidableEq, Repr

/-- Log settings in documents. -/
def LogSettings.codec : Codec LogSettings :=
  (Codec.record "struct LoggingCfg" <|
      .field (.defaulted "level" .text "info") <|
      .field (.defaulted "mode" .text "compact") .none).along
    (fun (level, mode, ()) => { level, mode })
    (fun s => (s.level, s.mode, ()))

/-! ## The configuration -/

/-- The configuration of the program. Additional routes come from the environment alone. -/
structure Configuration where
  gateway : GatewaySettings := {}
  auth : AuthMethod := .jwt
  acl : AclSettings := {}
  cors : CorsSettings := {}
  secretStore : SecretStoreSettings := {}
  routes : Routes := .empty
  bearerTokenFile : String := "/run/edgeproxy/secrets/admin-token"
  rootTokenFile : String := "/run/edgeproxy/secrets/root-token"
  accessTokenFile : String := ""
  timeoutMillis : UInt64 := 10000
  tls : TlsSettings := {}
  log : LogSettings := {}
  additionalRoutes : Option String := none

namespace Configuration

/-- Configurations in documents. -/
def codec : Codec Configuration :=
  (Codec.record "struct ProxyConfig" <|
      .field (.defaulted "kong" GatewaySettings.codec {}) <|
      .field (.defaulted "auth" (AuthMethod.codec (AuthMethod.nesting - 1)) .jwt) <|
      .field (.defaulted "acl" AclSettings.codec {}) <|
      .field (.defaulted "cors" CorsSettings.codec {}) <|
      .field (.defaulted "secret_store" SecretStoreSettings.codec {}) <|
      .field (.defaulted "routes" Routes.codec .empty) <|
      .field (.defaulted "bearer_token_file" .text "/run/edgeproxy/secrets/admin-token") <|
      .field (.defaulted "root_token_file" .text "/run/edgeproxy/secrets/root-token") <|
      .field (.defaulted "access_token_file" .text "") <|
      .field (.defaulted "request_timeout_ms" .uint64 10000) <|
      .field (.defaulted "tls_install" TlsSettings.codec {}) <|
      .field (.defaulted "logging" LogSettings.codec {}) .none).along
    (fun (gateway, auth, acl, cors, secretStore, routes, bearerTokenFile, rootTokenFile,
        accessTokenFile, timeoutMillis, tls, log, ()) =>
      { gateway, auth, acl, cors, secretStore, routes, bearerTokenFile, rootTokenFile,
        accessTokenFile, timeoutMillis, tls, log })
    (fun c =>
      (c.gateway, c.auth, c.acl, c.cors, c.secretStore, c.routes, c.bearerTokenFile,
        c.rootTokenFile, c.accessTokenFile, c.timeoutMillis, c.tls, c.log, ()))

/-- A configuration in which every route has a name, if each has a host and requests have time. -/
def normalized (c : Configuration) : Except ConfigurationFault Configuration :=
  let routes := c.routes.mapValues Provisioning.named
  match routes.entries.find? fun (_, route) => route.host.isEmpty with
  | some (key, _) => .error (.emptyHost key)
  | none => if c.timeoutMillis = 0 then .error .noTimeout else .ok { c with routes }

/-! ## The environment -/

/-- The variable that holds additional routes. -/
def routesVariable : String := "ADD_PROXY_ROUTE"

/-- The variable that holds the level of the log. -/
def logLevelVariable : String := "EDGEPROXY_LOG_LEVEL"

/-- The value of a variable, unless it is blank. -/
def nonBlank? (environment : String → Option String) (name : String) : Option String :=
  (environment name).filter (!Text.isAllBlank ·)

/-- A configuration with what the environment says. -/
def withEnvironment (c : Configuration) (environment : String → Option String) : Configuration :=
  { c with
    additionalRoutes := (nonBlank? environment routesVariable).or c.additionalRoutes
    log := { c.log with level := (nonBlank? environment logLevelVariable).getD c.log.level } }

/-! ## The parts of the program -/

/-- What provisioning needs. -/
def provisioning (c : Configuration) : Provisioning where
  gateway := c.gateway
  auth := c.auth
  cors := c.cors
  acl := c.acl
  routes := c.routes.effective c.additionalRoutes
  bearerTokenFile := c.bearerTokenFile
  accessTokenFile := if c.accessTokenFile.isEmpty then none else some c.accessTokenFile

/-- What a client is told, the authorities read from a file unless the client trusts every server. -/
def clientOptions (c : Configuration) (files : FileSource) (skipVerify : Bool) (bundle : String) :
    Except ConfigurationFault ClientOptions := do
  let authorities ←
    if skipVerify || bundle.isEmpty then pure none
    else some <$> (files bundle).mapError (.unreadableBundle bundle)
  return { skipVerify, authorities, timeoutMillis := c.timeoutMillis.toNat }

/-- What the client of the admin interface is told. -/
def adminOptions (c : Configuration) (files : FileSource) :
    Except ConfigurationFault ClientOptions :=
  c.clientOptions files c.gateway.skipVerify c.gateway.caFile

/-- What the client of the secret store is told. -/
def secretStoreOptions (c : Configuration) (files : FileSource) :
    Except ConfigurationFault ClientOptions :=
  c.clientOptions files false c.secretStore.caFilePath

/-- Where a certificate and its key are installed; the caller may choose another folder. -/
def tlsDestination (c : Configuration) (folder : Option String) : TlsDestination where
  folder := folder.getD c.tls.folder
  certName := c.tls.certName
  keyName := c.tls.keyName
  owner := c.tls.owner

end Configuration

end GatewayProvisioning
