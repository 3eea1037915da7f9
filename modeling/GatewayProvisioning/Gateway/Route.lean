import GatewayProvisioning.Document.Codec
import GatewayProvisioning.Text.Lowercase
import GatewayProvisioning.Url.Percent

/-!
Routes as they are configured, and the objects that the gateway keeps for them: a service, which says
where requests go, and a route, which says by which path they come.
-/

namespace GatewayProvisioning

open Document

/-- A configured route. -/
structure Route where
  name : String
  protocol : String
  host : String
  port : UInt16
  deriving DecidableEq, Repr

/-- Configured routes by key. -/
abbrev Routes := NameMap Route

namespace Gateway

/-- Where the gateway sends requests. -/
structure Service where
  name : String
  host : String
  port : UInt16
  protocol : String
  deriving DecidableEq, Repr

/-- By which paths requests come to the gateway. -/
structure Entry where
  name : String
  paths : List String
  deriving DecidableEq, Repr

/-- The fields of the request that creates a service. -/
def Service.form (s : Service) : Url.Form :=
  [("name", s.name), ("host", s.host), ("port", Decimal.ofNat s.port.toNat),
    ("protocol", s.protocol)]

/-- Services in documents. -/
def Service.codec : Codec Service :=
  (Codec.record "struct GatewayService" <|
      .field (.required "name" .text) <|
      .field (.required "host" .text) <|
      .field (.required "port" .uint16) <|
      .field (.required "protocol" .text) .none).along
    (fun (name, host, port, protocol, ()) => ⟨name, host, port, protocol⟩)
    (fun s => (s.name, s.host, s.port, s.protocol, ()))

/-- Entries in documents. -/
def Entry.codec : Codec Entry :=
  (Codec.record "struct GatewayRoute" <|
      .field (.required "name" .text) <|
      .field (.required "paths" (.list .text)) .none).along
    (fun (name, paths, ()) => ⟨name, paths⟩)
    (fun e => (e.name, e.paths, ()))

end Gateway

namespace Route

/-- The service of a route, under the configured name. -/
def toService (r : Route) : Gateway.Service :=
  { name := r.name, host := r.host, port := r.port, protocol := r.protocol }

/-- The entry of a route: its name in lower case is also its only path. -/
def toEntry (r : Route) : Gateway.Entry :=
  let lower := Text.lowercase r.name
  { name := lower, paths := ["/" ++ lower] }

/-- Configured routes in documents. -/
def codec : Codec Route :=
  (Codec.record "struct RouteSpec" <|
      .field (.defaulted "name" .text "") <|
      .field (.defaulted "protocol" .text "http") <|
      .field (.required "host" .text) <|
      .field (.required "port" .uint16) .none).along
    (fun (name, protocol, host, port, ()) => ⟨name, protocol, host, port⟩)
    (fun r => (r.name, r.protocol, r.host, r.port, ()))

end Route

/-- Maps of configured routes in documents. -/
def Routes.codec : Codec Routes :=
  .map Route.codec

end GatewayProvisioning
