import GatewayProvisioning.Proofs.AdminCalls

/-!
# Gateways that keep what they are given

A gateway may be anything that answers requests. Here is what is asked of one that keeps services and
routes by their names and plugins by what they apply to and by name: how it answers each call, and
what it keeps then. A view says what it keeps in a state; the rest of the state is its own affair.
-/

namespace GatewayProvisioning

/-- The services and the routes that a gateway keeps. A route belongs to the service of a name. -/
@[ext]
structure Routing where
  services : String → Option Gateway.Service
  entries : String → Option (String × Gateway.Entry)

/-- A plugin that a gateway keeps. -/
structure KeptPlugin where
  id : String
  config : Url.Form
  deriving DecidableEq, Repr

/-- All that a gateway keeps. -/
@[ext]
structure Store extends Routing where
  plugins : Scope → String → Option KeptPlugin

namespace Routing

/-- No services and no routes. -/
def empty : Routing where
  services _ := none
  entries _ := none

/-- Keeps a service under its name. -/
def addService (t : Routing) (service : Gateway.Service) : Routing :=
  { t with services := fun name => if name = service.name then some service else t.services name }

/-- Keeps a route of a service under its name. -/
def addEntry (t : Routing) (owner : String) (entry : Gateway.Entry) : Routing :=
  { t with entries := fun name => if name = entry.name then some (owner, entry) else t.entries name }

/-- How services and routes are kept: what is new is stored with status 201, and what has a name that
is taken is refused with status 409 and changes nothing. -/
def Answers (t : Routing) (status : UInt16) (t' : Routing) : AdminCall → Prop
  | .addService service =>
    match t.services service.name with
    | none => status = 201 ∧ t' = t.addService service
    | some _ => status = 409 ∧ t' = t
  | .addEntry owner entry =>
    (t.services owner).isSome →
      match t.entries entry.name with
      | none => status = 201 ∧ t' = t.addEntry owner entry
      | some _ => status = 409 ∧ t' = t
  | .addPlugin .. | .listPlugins _ | .removePlugin .. => t' = t

end Routing

namespace Store

/-- Whether there is what a scope names. -/
def has (st : Store) : Scope → Bool
  | .service name => (st.services name).isSome
  | .route name => (st.entries name).isSome
  | .global => true

/-- Puts a plugin, or none, in the place of a scope and a name. -/
def putPlugin (st : Store) (scope : Scope) (name : String) (plugin : Option KeptPlugin) : Store :=
  { st with plugins := fun s n => if s = scope ∧ n = name then plugin else st.plugins s n }

/-- A text lists the plugins of a service on one page. -/
def Lists (st : Store) (service text : String) : Prop :=
  ∃ page, (Page.codec PluginEntry.codec).decode (Json.document text) = .ok page ∧
    page.next = none ∧
    ∀ entry, entry ∈ page.data ↔
      ∃ plugin, st.plugins (.service service) entry.name = some plugin ∧ plugin.id = entry.id

/-- How plugins are kept. Nothing is attached to what is not there, a listing holds all plugins of a
service, and a listed plugin can be deleted by its id. -/
def AnswersPlugins (st : Store) (response : Response) (st' : Store) : AdminCall → Prop
  | .addService _ => st'.plugins = st.plugins
  | .addEntry owner _ =>
    st'.plugins = st.plugins ∧ (st.services owner = none → response.status = 404 ∧ st' = st)
  | .addPlugin scope name config =>
    if st.has scope then
      match st.plugins scope name with
      | none => response.status = 201 ∧ ∃ id, st' = st.putPlugin scope name (some ⟨id, config⟩)
      | some _ => response.status = 409 ∧ st' = st
    else response.status = 404 ∧ st' = st
  | .listPlugins service =>
    st' = st ∧
      if st.has (.service service) then response.status = 200 ∧ st.Lists service response.body
      else response.status = 404
  | .removePlugin service id =>
    ∀ name plugin, st.plugins (.service service) name = some plugin → plugin.id = id →
      response.status = 204 ∧ st' = st.putPlugin (.service service) name none

end Store

/-! ## Laws of gateways -/

section

variable {σ : Type} (base : String) (gateway : σ → Request → Reply × σ)

/-- A gateway keeps services and routes by name. What does not ask for a new one leaves them as they
are. -/
structure KeepsRouting (view : σ → Routing) : Prop where
  answers : ∀ state request call response, AdminCall.ofRequest? base request = some call →
    (gateway state request).1 = .ok response →
      (view state).Answers response.status (view (gateway state request).2) call
  others : ∀ state request, AdminCall.ofRequest? base request = none →
    view (gateway state request).2 = view state

/-- A gateway keeps services, routes and plugins, which have ids. -/
structure Keeps (view : σ → Store) : Prop where
  ids : ∀ state scope name plugin, (view state).plugins scope name = some plugin → plugin.id ≠ ""
  answers : ∀ state request call, AdminCall.ofRequest? base request = some call →
    ∃ response, (gateway state request).1 = .ok response ∧
      (view state).toRouting.Answers response.status (view (gateway state request).2).toRouting call ∧
      (view state).AnswersPlugins response (view (gateway state request).2) call

end

end GatewayProvisioning
