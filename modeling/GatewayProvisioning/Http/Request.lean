import GatewayProvisioning.Json.Basic
import GatewayProvisioning.Url.Percent

/-!
Requests and responses.
-/

namespace GatewayProvisioning

/-- What a request asks for. -/
inductive Method where
  | get
  | post
  | put
  | delete
  | other (name : String)
  deriving DecidableEq, Repr

/-- The name of a method as it is sent. -/
def Method.name : Method → String
  | .get => "GET"
  | .post => "POST"
  | .put => "PUT"
  | .delete => "DELETE"
  | .other name => name

/-- What a request carries. -/
inductive Body where
  | empty
  | form (fields : Url.Form)
  | json (value : Json)

/-- A request. Its headers stand in the order in which they were added. -/
structure Request where
  method : Method
  url : String
  headers : List (String × String) := []
  body : Body := .empty

namespace Request

/-- The value of the first header of a name, up to the case of its letters. -/
def header? (r : Request) (name : String) : Option String :=
  (r.headers.find? fun h => Text.equalIgnoringAsciiCase h.1 name).map Prod.snd

end Request

/-- A response: a status and a text. -/
structure Response where
  status : UInt16
  body : String
  deriving DecidableEq, Repr

namespace Response

/-- Whether the status is 200. -/
def isOk (r : Response) : Bool :=
  r.status == 200

/-- Whether the status is 200 or 201. -/
def isCreated (r : Response) : Bool :=
  r.status == 200 || r.status == 201

/-- Whether the status is of the class 2xx. -/
def isSuccess (r : Response) : Bool :=
  200 ≤ r.status.toNat && r.status.toNat < 300

end Response

/-- What comes back for a request: a response, or the reason why there is none. -/
abbrev Reply := Except String Response

end GatewayProvisioning
