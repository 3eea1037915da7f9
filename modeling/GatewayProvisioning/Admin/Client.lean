import GatewayProvisioning.Document.Codec
import GatewayProvisioning.Gateway.Listing
import GatewayProvisioning.Http.Dialogue
import GatewayProvisioning.Json.Reader

/-!
The admin interface of the gateway. Every request to it carries a bearer token, except where a caller
sends one of its own.
-/

namespace GatewayProvisioning

open Document

/-- Access to the admin interface: the base of its addresses and a token. -/
structure AdminClient where
  base : String
  token : String
  deriving DecidableEq, Repr

/-- What became of an object that was to be created. -/
inductive Created where
  | new
  | alreadyConfigured
  deriving DecidableEq, Repr

namespace AdminClient

/-- The address of a path. -/
def url (c : AdminClient) (path : String) : String :=
  Url.join c.base [path]

/-- A request to an address, with the token. -/
def requestTo (c : AdminClient) (method : Method) (url : String) : Request :=
  { method, url, headers := [("Authorization", "Bearer " ++ c.token)] }

/-- A request to a path, with the token. -/
def request (c : AdminClient) (method : Method) (path : String) : Request :=
  c.requestTo method (c.url path)

/-- Asks for what is at a path. -/
def get (c : AdminClient) (path : String) : Dialogue Response :=
  .send (c.request .get path)

/-- Deletes what is at a path. -/
def delete (c : AdminClient) (path : String) : Dialogue Response :=
  .send (c.request .delete path)

/-- Posts a form to a path. -/
def postForm (c : AdminClient) (path : String) (fields : Url.Form) : Dialogue Response :=
  .send { c.request .post path with body := .form fields }

/-- Posts a JSON value to a path. -/
def postJson (c : AdminClient) (path : String) (value : Json) : Dialogue Response :=
  .send { c.request .post path with body := .json value }

/-- Posts nothing to a path. -/
def postEmpty (c : AdminClient) (path : String) : Dialogue Response :=
  .send (c.request .post path)

/-- Puts nothing to a path. -/
def putEmpty (c : AdminClient) (path : String) : Dialogue Response :=
  .send (c.request .put path)

/-! ## Answers -/

/-- What an answer to the creation of an object means: a conflict means that it is there already. -/
def created (c : AdminClient) (path : String) (r : Response) : Except Failure Created :=
  if r.isCreated then .ok .new
  else if r.status == 409 then .ok .alreadyConfigured
  else .error (.refused (c.url path) r.status r.body)

/-- The value of an answer from an address. -/
def decodeFrom {α : Type} (codec : Codec α) (url : String) (body : String) : Except Failure α :=
  (codec.decode (Json.document body)).mapError fun e => .undecodable url (.document e)

/-- The value of an answer with status 200. -/
def decodeOk {α : Type} (c : AdminClient) (codec : Codec α) (path : String) (r : Response) :
    Except Failure α :=
  if r.isOk then decodeFrom codec (c.url path) r.body
  else .error (.refused (c.url path) r.status r.body)

/-! ## Listings -/

/-- The address of a link: one that is no address of its own begins at the base. -/
def resolve (c : AdminClient) (link : String) : String :=
  if "http://".toList.isPrefixOf link.toList || "https://".toList.isPrefixOf link.toList then link
  else
    String.ofList (Url.trimBase c.base ++ '/' :: link.toList.dropWhile (· == '/'))

/-- The ids of a page, and the address of the next page if there is one. -/
def readPage (c : AdminClient) (url : String) (r : Response) :
    Except Failure (List String × Option String) := do
  if !r.isOk then throw (.refused url r.status r.body)
  let page ← decodeFrom (Page.codec IdEntry.codec) url r.body
  return (page.data.map (·.id), page.link?.map c.resolve)

/-- Walks through a listing from an address on. No address is visited twice. -/
def walk (c : AdminClient) (visited ids : List String) (url : String) : Dialogue (List String)
  | [] =>
    if url ∈ visited then Dialogue.fail (.undecodable url .linkVisited) []
    else ⟨[c.requestTo .get url], none⟩
  | reply :: replies =>
    if url ∈ visited then Dialogue.fail (.undecodable url .linkVisited) (reply :: replies)
    else
      let request := c.requestTo .get url
      match reply with
      | .error reason => ⟨[request], some (.error (.unreachable url reason), replies)⟩
      | .ok response =>
        match c.readPage url response with
        | .error failure => ⟨[request], some (.error failure, replies)⟩
        | .ok (found, none) => ⟨[request], some (.ok (ids ++ found), replies)⟩
        | .ok (found, some next) =>
          let progress := c.walk (visited ++ [url]) (ids ++ found) next replies
          ⟨request :: progress.sent, progress.ended⟩

/-- The ids of all objects of a collection. -/
def listIds (c : AdminClient) (collection : String) : Dialogue (List String) :=
  c.walk [] [] (c.url collection)

/-! ## Deletion -/

/-- The path of an object of a collection. -/
def objectPath (collection id : String) : String :=
  String.ofList (Url.trimBase collection) ++ "/" ++ Url.encodeSegment id

/-- Whether a status means that an object was deleted. -/
def isDeleted (r : Response) : Bool :=
  r.isCreated || r.status == 204

/-- Deletes an object of a collection. -/
def remove (c : AdminClient) (collection id : String) : Dialogue Unit := do
  let target := objectPath collection id
  let r ← c.delete target
  if isDeleted r then pure ()
  else .fail (.notDeleted (c.url target) collection id r.status r.body)

end AdminClient

end GatewayProvisioning
