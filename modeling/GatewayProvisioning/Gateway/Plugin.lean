import GatewayProvisioning.Gateway.Auth
import GatewayProvisioning.Gateway.Settings

/-!
Plugins as they are attached to the gateway: a name, what they apply to, and their configuration as
the fields of a form, in the order in which they were given.
-/

namespace GatewayProvisioning

/-- What a plugin applies to. -/
inductive Scope where
  | service (name : String)
  | route (name : String)
  | global
  deriving DecidableEq, Repr

/-- Where the plugins of a service are kept. -/
def servicePlugins (service : String) : String :=
  "services/" ++ Url.encodeSegment service ++ "/plugins"

/-- Where the plugins of a route are kept. -/
def routePlugins (route : String) : String :=
  "routes/" ++ Url.encodeSegment route ++ "/plugins"

/-- Where the plugins of a scope are kept. -/
def Scope.collection : Scope → String
  | .service name => servicePlugins name
  | .route name => routePlugins name
  | .global => "plugins"

/-- A plugin to be attached. -/
structure Plugin where
  name : String
  scope : Scope
  config : Url.Form := []
  deriving DecidableEq, Repr

namespace Plugin

/-- The plugin that changes requests on their way to a service. -/
def headerPlugin : String := "request-transformer"

/-- The header that carries the token of the registry. -/
def registryHeader : String := "X-Consul-Token"

/-- Adds one configuration field. -/
def set (p : Plugin) (key value : String) : Plugin :=
  { p with config := p.config ++ [("config." ++ key, value)] }

/-- Adds a configuration field for each of several values. -/
def setEach (p : Plugin) (key : String) (values : List String) : Plugin :=
  { p with config := p.config ++ values.map fun value => ("config." ++ key, value) }

/-- Adds a configuration field for each item of a comma separated list. -/
def setList (p : Plugin) (key list : String) : Plugin :=
  p.setEach key (Text.commaItems list)

/-- The fields of the request that attaches the plugin. -/
def form (p : Plugin) : Url.Form :=
  ("name", p.name) :: p.config

/-- A truth value in a form. -/
def flagText (b : Bool) : String :=
  if b then "true" else "false"

/-- What a route allows to pages of other origins. -/
def cors (route : String) (s : CorsSettings) : Plugin :=
  ({ name := "cors", scope := .route route } : Plugin)
    |>.setList "origins" s.origins
    |>.setList "methods" s.methods
    |>.setList "headers" s.headers
    |>.setList "exposed_headers" s.exposedHeaders
    |>.set "credentials" (flagText s.credentials)
    |>.set "max_age" (Decimal.ofNat s.maxAge.toNat)

/-- How consumers authenticate at a route. -/
def auth (route : String) (method : AuthMethod) : Plugin :=
  let plugin : Plugin := { name := method.kind.name, scope := .route route }
  match method with
  | .jwt => plugin
  | .oauth2 s =>
    plugin
      |>.setList "scopes" s.scope
      |>.set "mandatory_scope" "true"
      |>.set "enable_client_credentials" "true"
      |>.set "global_credentials" "true"
      |>.set "token_expiration" (Decimal.ofNat s.tokenTtl.toNat)

/-- The token of the registry on every request to a service. -/
def registryToken (service secretId : String) : Plugin :=
  ({ name := headerPlugin, scope := .service service } : Plugin)
    |>.set "add.headers" (registryHeader ++ ":" ++ secretId)

/-- Which groups are let in everywhere. -/
def acl (s : AclSettings) : Plugin :=
  ({ name := s.name, scope := .global } : Plugin).setEach "whitelist" s.groups

end Plugin

end GatewayProvisioning
