import GatewayProvisioning.Document.Codec
import GatewayProvisioning.Url.Percent

/-!
The settings of the gateway, its plugins and the secret store. Every setting has a default, so a
document may leave out any of them.
-/

namespace GatewayProvisioning

open Document

/-! ## The gateway -/

/-- Where the gateway is and how to reach it. -/
structure GatewaySettings where
  server : String := "kong"
  adminProtocol : String := "http"
  adminPort : UInt16 := 8001
  adminPath : String := ""
  applicationPort : UInt16 := 8000
  applicationPortSsl : UInt16 := 8443
  skipVerify : Bool := false
  caFile : String := ""
  deriving DecidableEq, Repr

namespace GatewaySettings

/-- Gateway settings in documents. -/
def codec : Codec GatewaySettings :=
  (Codec.record "struct KongSettings" <|
      .field (.defaulted "server" .text "kong") <|
      .field (.defaulted "admin_protocol" .text "http") <|
      .field (.defaulted "admin_port" .uint16 8001) <|
      .field (.defaulted "admin_path" .text "") <|
      .field (.defaulted "application_port" .uint16 8000) <|
      .field (.defaulted "application_port_ssl" .uint16 8443) <|
      .field (.defaulted "skip_verify" .flag false) <|
      .field (.defaulted "ca_file" .text "") .none).along
    (fun (server, adminProtocol, adminPort, adminPath, applicationPort, applicationPortSsl,
        skipVerify, caFile, ()) =>
      { server, adminProtocol, adminPort, adminPath, applicationPort, applicationPortSsl,
        skipVerify, caFile })
    (fun s =>
      (s.server, s.adminProtocol, s.adminPort, s.adminPath, s.applicationPort,
        s.applicationPortSsl, s.skipVerify, s.caFile, ()))

/-- Protocol, host and port of a URL. -/
def root (protocol host : String) (port : UInt16) : String :=
  protocol ++ "://" ++ host ++ ":" ++ Decimal.ofNat port.toNat

/-- The base of all addresses of the admin interface. -/
def adminBase (s : GatewaySettings) : String :=
  Url.join (root s.adminProtocol s.server s.adminPort) [s.adminPath]

/-- Where the gateway issues tokens for a resource. -/
def tokenEndpoint (s : GatewaySettings) (resource : String) : String :=
  Url.join (root "https" s.server s.applicationPortSsl) [resource, "oauth2", "token"]

end GatewaySettings

/-! ## Plugins -/

/-- What the gateway allows to pages of other origins. -/
structure CorsSettings where
  enabled : Bool := false
  origins : String := "*"
  methods : String := "GET, HEAD, PUT, PATCH, POST, DELETE"
  headers : String := ""
  exposedHeaders : String := ""
  credentials : Bool := false
  maxAge : UInt64 := 0
  deriving DecidableEq, Repr

/-- Settings for other origins in documents. -/
def CorsSettings.codec : Codec CorsSettings :=
  (Codec.record "struct CorsSettings" <|
      .field (.defaulted "enabled" .flag false) <|
      .field (.defaulted "origins" .text "*") <|
      .field (.defaulted "methods" .text "GET, HEAD, PUT, PATCH, POST, DELETE") <|
      .field (.defaulted "headers" .text "") <|
      .field (.defaulted "exposed_headers" .text "") <|
      .field (.defaulted "credentials" .flag false) <|
      .field (.defaulted "max_age" .uint64 0) .none).along
    (fun (enabled, origins, methods, headers, exposedHeaders, credentials, maxAge, ()) =>
      { enabled, origins, methods, headers, exposedHeaders, credentials, maxAge })
    (fun s =>
      (s.enabled, s.origins, s.methods, s.headers, s.exposedHeaders, s.credentials, s.maxAge, ()))

/-- Which groups of consumers the gateway lets in. -/
structure AclSettings where
  enabled : Bool := false
  name : String := "acl"
  whitelist : String := "admin"
  group : String := "admin"
  deriving DecidableEq, Repr

namespace AclSettings

/-- Group settings in documents. -/
def codec : Codec AclSettings :=
  (Codec.record "struct AclSettings" <|
      .field (.defaulted "enabled" .flag false) <|
      .field (.defaulted "name" .text "acl") <|
      .field (.defaulted "whitelist" .text "admin") <|
      .field (.defaulted "group" .text "admin") .none).along
    (fun (enabled, name, whitelist, group, ()) => { enabled, name, whitelist, group })
    (fun s => (s.enabled, s.name, s.whitelist, s.group, ()))

/-- The groups that are let in. -/
def groups (s : AclSettings) : List String :=
  Text.commaItems s.whitelist

end AclSettings

/-! ## The secret store -/

/-- Where the secret store is and what it holds for the gateway. -/
structure SecretStoreSettings where
  protocol : String := "https"
  host : String := "localhost"
  port : UInt16 := 8200
  certPath : String := "v1/secret/edgex/pki/tls/edgex-kong"
  tokenFile : String := ""
  caFilePath : String := ""
  snis : String := ""
  uploadOnInit : Bool := false
  deriving DecidableEq, Repr

namespace SecretStoreSettings

/-- Secret store settings in documents. -/
def codec : Codec SecretStoreSettings :=
  (Codec.record "struct SecretStoreSettings" <|
      .field (.defaulted "protocol" .text "https") <|
      .field (.defaulted "host" .text "localhost") <|
      .field (.defaulted "port" .uint16 8200) <|
      .field (.defaulted "cert_path" .text "v1/secret/edgex/pki/tls/edgex-kong") <|
      .field (.defaulted "token_file" .text "") <|
      .field (.defaulted "ca_file_path" .text "") <|
      .field (.defaulted "snis" .text "") <|
      .field (.defaulted "upload_on_init" .flag false) .none).along
    (fun (protocol, host, port, certPath, tokenFile, caFilePath, snis, uploadOnInit, ()) =>
      { protocol, host, port, certPath, tokenFile, caFilePath, snis, uploadOnInit })
    (fun s =>
      (s.protocol, s.host, s.port, s.certPath, s.tokenFile, s.caFilePath, s.snis, s.uploadOnInit,
        ()))

/-- The root of the secret store. -/
def base (s : SecretStoreSettings) : String :=
  GatewaySettings.root s.protocol s.host s.port

end SecretStoreSettings

end GatewayProvisioning
