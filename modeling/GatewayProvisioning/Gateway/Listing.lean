import GatewayProvisioning.Document.Codec

/-!
Listings of the gateway: pages of entries, each with a link to the next one.
-/

namespace GatewayProvisioning

open Document

/-- One page of a listing. -/
structure Page (α : Type) where
  data : List α
  next : Option String
  deriving DecidableEq, Repr

/-- Pages in documents. -/
def Page.codec {α : Type} (entry : Codec α) : Codec (Page α) :=
  (Codec.record "struct Page" <|
      .field (.defaulted "data" (.list entry) []) <|
      .field (.defaulted "next" (.optional .text) none) .none).along
    (fun (data, next, ()) => ⟨data, next⟩)
    (fun p => (p.data, p.next, ()))

/-- The link to the next page, if there is one. -/
def Page.link? {α : Type} (p : Page α) : Option String :=
  p.next.filter fun link => !link.isEmpty

/-- An object of a listing, known by its id. -/
structure IdEntry where
  id : String
  deriving DecidableEq, Repr

/-- Listed ids in documents. -/
def IdEntry.codec : Codec IdEntry :=
  (Codec.record "struct IdEntry" <| .field (.required "id" .text) .none).along
    (fun (id, ()) => ⟨id⟩) (fun e => (e.id, ()))

/-- A plugin of a listing. -/
structure PluginEntry where
  id : String
  name : String
  deriving DecidableEq, Repr

/-- Listed plugins in documents. -/
def PluginEntry.codec : Codec PluginEntry :=
  (Codec.record "struct PluginEntry" <|
      .field (.required "id" .text) <|
      .field (.defaulted "name" .text "") .none).along
    (fun (id, name, ()) => ⟨id, name⟩) (fun e => (e.id, e.name, ()))

end GatewayProvisioning
