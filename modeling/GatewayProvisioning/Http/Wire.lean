import GatewayProvisioning.Http.Dialogue
import GatewayProvisioning.Url.Reader

/-!
Requests on the network. A request is built before it is sent: its address must be one of the web and
its headers must be lines of text.
-/

namespace GatewayProvisioning.Wire

/-- Whether a character may stand in the name of a header. -/
def isNameChar (c : Char) : Bool :=
  c.toNat < 0x80 && (Url.isAlphanumeric (UInt8.ofNat c.toNat) ||
    ("!#$%&'*+-.^_|~".toList ++ [Char.ofNat 0x60]).contains c)

/-- Whether a text can be the name of a header. -/
def isName (name : String) : Bool :=
  !name.isEmpty && name.toList.all isNameChar

/-- Whether a text can be the value of a header. -/
def isValue (value : String) : Bool :=
  value.toList.all fun c => c == '\t' || (0x20 ≤ c.toNat && c.toNat != 0x7F)

/-- Whether a host can stand in a request. -/
def isHost (host : Url.Host) : Bool :=
  host.write.toList.all fun c =>
    !(c == '"' || c.toNat == 0x60 || c.toNat == 0x7B || c.toNat == 0x7D)

/-- Whether a URL is an address of the web. -/
def isWebAddress (u : Url) : Bool :=
  (u.scheme == "http" || u.scheme == "https") && u.host.any isHost

/-- A URL in a reason. Whose access it is stays hidden. -/
def shown (u : Url) : String :=
  " for url (" ++ u.withoutUser.write ++ ")"

/-- The reason why a request cannot be built, or the URL that it goes to. A URL without a host is
refused before the headers are looked at, any other URL that is no address of the web after it. -/
def target (r : Request) : Except String Url :=
  match Url.parse r.url with
  | .error _ => .error "builder error"
  | .ok u =>
    if u.host.isNone then .error ("builder error" ++ shown u)
    else if !(r.headers.all fun h => isName h.1 && isValue h.2) then .error "builder error"
    else if !isWebAddress u then .error ("builder error" ++ shown u)
    else .ok u

/-- The reason that is given for a request when nothing is reached. -/
def unreachedReason (r : Request) : String :=
  match target r with
  | .error reason => reason
  | .ok u => "error sending request" ++ shown u

/-- A network on which nothing is reached. -/
def unreached (r : Request) : Reply :=
  .error (unreachedReason r)

end GatewayProvisioning.Wire
