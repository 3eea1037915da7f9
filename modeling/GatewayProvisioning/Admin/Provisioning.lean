import GatewayProvisioning.Admin.Client
import GatewayProvisioning.Gateway.Certificate
import GatewayProvisioning.Gateway.Plugin
import GatewayProvisioning.Gateway.Route
import GatewayProvisioning.Token.File

/-!
Provisioning the gateway: services, routes and plugins are created from a configuration, everything
is deleted again, and a certificate is uploaded.
-/

namespace GatewayProvisioning

/-- All that provisioning needs. -/
structure Provisioning where
  gateway : GatewaySettings := {}
  auth : AuthMethod := .jwt
  cors : CorsSettings := {}
  acl : AclSettings := {}
  routes : Routes := .empty
  bearerTokenFile : String := ""
  accessTokenFile : Option String := none

namespace Provisioning

/-- The key of the route to the registry. -/
def registryKey : String := "consul"

/-- The collections in the order in which they are emptied: no object is deleted before those that
hang on it. -/
def resetOrder : List String :=
  ["routes", "services", "consumers", "plugins", "certificates"]

/-- The collection of certificates. -/
def certificates : String := "certificates"

/-- Access to the admin interface, with the token of its file. -/
def client (p : Provisioning) (files : FileSource) : Except Failure AdminClient := do
  return { base := p.gateway.adminBase, token := ← Token.load files p.bearerTokenFile }

/-- Checks that the gateway is up: only status 200 counts. -/
def checkStatus (p : Provisioning) : Dialogue Unit := do
  let url := p.gateway.adminBase
  let r ← Dialogue.send { method := .get, url }
  if r.isOk then pure () else .fail (.refused url r.status r.body)

/-! ## Creating objects -/

/-- Creates a service. -/
def createService (c : AdminClient) (service : Gateway.Service) : Dialogue Created := do
  let r ← c.postForm "services" service.form
  .ofResult (c.created "services" r)

/-- The body of the request that creates an entry. -/
def entryBody (entry : Gateway.Entry) : Json :=
  .record [("name", .text entry.name), ("paths", .texts entry.paths)]

/-- Where the entries of a service are kept. -/
def serviceEntries (service : String) : String :=
  "services/" ++ Url.encodeSegment service ++ "/routes"

/-- Creates an entry of a service. -/
def createEntry (c : AdminClient) (service : String) (entry : Gateway.Entry) : Dialogue Created := do
  let r ← c.postJson (serviceEntries service) (entryBody entry)
  .ofResult (c.created (serviceEntries service) r)

/-- Attaches a plugin. -/
def attach (c : AdminClient) (plugin : Plugin) : Dialogue Created := do
  let r ← c.postForm plugin.scope.collection plugin.form
  .ofResult (c.created plugin.scope.collection r)

/-- Removes the plugin that changes requests to a service, if its plugins are found to hold one. -/
def removeHeaderPlugin (c : AdminClient) (collection : String) (plugins : List PluginEntry) :
    Dialogue Unit :=
  match plugins.find? fun plugin => plugin.name == Plugin.headerPlugin with
  | some plugin => c.remove collection plugin.id
  | none => pure ()

/-- Puts the token of the registry on requests to a service, in place of an older one. -/
def injectRegistryToken (p : Provisioning) (files : FileSource) (c : AdminClient)
    (service : String) : Dialogue Unit := do
  let path ← Dialogue.ofResult <|
    match p.accessTokenFile with
    | some path => .ok path
    | none => .error (.badConfig .noAccessTokenFile)
  let collection := servicePlugins service
  let listed ← c.get collection
  let page ← Dialogue.ofResult (c.decodeOk (Page.codec PluginEntry.codec) collection listed)
  removeHeaderPlugin c collection page.data
  let id ← Dialogue.ofResult (Token.secretId files path)
  let r ← c.postForm collection (Plugin.registryToken service id).form
  if r.status == 409 then .fail (.alreadyExists (c.url collection))
  else if r.isSuccess then pure ()
  else .fail (.refused (c.url collection) r.status r.body)

/-- A route with a name: that of its key unless it has one of its own. -/
def named (key : String) (route : Route) : Route :=
  if route.name.isEmpty then { route with name := key } else route

/-- Whether a key is that of the route to the registry. -/
def isRegistry (key : String) : Bool :=
  Text.equalIgnoringAsciiCase key registryKey

/-- Creates all that belongs to a route. -/
def initRoute (p : Provisioning) (files : FileSource) (c : AdminClient) (item : String × Route) :
    Dialogue Unit := do
  let route := named item.1 item.2
  let service := route.toService
  let _ ← createService c service
  if isRegistry item.1 then p.injectRegistryToken files c service.name
  let entry := route.toEntry
  let _ ← createEntry c service.name entry
  if p.cors.enabled then
    let _ ← attach c (.cors entry.name p.cors)
  let _ ← attach c (.auth entry.name p.auth)

/-- Creates or repairs everything. It stops at the first failure. -/
def init (p : Provisioning) (files : FileSource) : Dialogue Unit := do
  let c ← Dialogue.ofResult (p.client files)
  Dialogue.forEach (p.initRoute files c) p.routes.entries
  if p.acl.enabled then
    let _ ← attach c (.acl p.acl)

/-! ## Reset -/

/-- Deletes all objects of a collection. -/
def emptyCollection (c : AdminClient) (collection : String) : Dialogue Unit := do
  let ids ← c.listIds collection
  Dialogue.forEach (c.remove collection) ids

/-- Deletes everything. It stops at the first failure. -/
def reset (p : Provisioning) (files : FileSource) : Dialogue Unit := do
  let c ← Dialogue.ofResult (p.client files)
  Dialogue.forEach (emptyCollection c) resetOrder

/-! ## Certificates -/

/-- What an answer to an upload means. -/
def uploadOutcome (r : Response) : UploadOutcome :=
  if r.isCreated then .uploaded
  else if (Text.splitAtMark? "existing certificate".toList r.body.toList).isSome then .present
  else .refused r.status r.body

/-- Uploads a certificate for the builtin server names and those of a list. -/
def postCert (p : Provisioning) (files : FileSource) (pair : CertPair) (extraNames : String) :
    Dialogue UploadOutcome := do
  Dialogue.ofResult pair.validate
  let c ← Dialogue.ofResult (p.client files)
  let r ← c.postJson certificates (pair.upload (serverNames extraNames))
  pure (uploadOutcome r)

end Provisioning

end GatewayProvisioning
