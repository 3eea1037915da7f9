import GatewayProvisioning.Url.Address
import GatewayProvisioning.Url.Idna.Name
import GatewayProvisioning.Url.Percent

/-!
Hosts. The well-known schemes have a name of the Internet or an address as host; under any other
scheme a host that is no address of groups is taken as it stands.
-/

namespace GatewayProvisioning.Url

/-- A host. -/
inductive Host where
  | name (text : String)
  | ipv4 (address : Nat)
  | ipv6 (groups : List Nat)
  deriving DecidableEq, Repr

namespace Host

/-- The written form of a host. -/
def write : Host → String
  | .name text => text
  | .ipv4 address => String.ofList (writeIpv4 address)
  | .ipv6 groups => String.ofList ('[' :: writeIpv6 groups ++ [']'])

/-- The address in brackets, if a host begins with one. -/
def bracketed? : List Char → Option (Except Fault Host)
  | '[' :: rest =>
    some <|
      match rest.getLast?, ipv6? rest.dropLast with
      | some ']', some groups => .ok (.ipv6 groups)
      | _, _ => .error .badIpv6
  | _ => none

/-- The host of a well-known scheme. -/
def ofSpecial (cs : List Char) : Except Fault Host :=
  match bracketed? cs with
  | some result => result
  | none =>
    let decoded := Utf8.decodeLossy (percentDecode (Utf8.encodeChars cs))
    match Idna.toAscii? decoded with
    | none => .error .badInternationalName
    | some ascii =>
      if ascii.isEmpty then .error .emptyHost
      else if endsInNumber ascii.toList then
        match ipv4? ascii.toList with
        | some address => .ok (.ipv4 address)
        | none => .error .badIpv4
      else .ok (.name ascii)

/-- The characters that no host holds as they are. -/
def forbidden : List Char :=
  [Char.ofNat 0, '\t', '\n', '\r', ' ', '#', '/', ':', '<', '>', '?', '@', '[', '\\', ']', '^', '|']

/-- Whether a byte is a printable ASCII character. -/
def isPrintable (b : UInt8) : Bool :=
  0x20 ≤ b.toNat && b.toNat < 0x7F

/-- The host of another scheme. -/
def ofOther (cs : List Char) : Except Fault Host :=
  match bracketed? cs with
  | some result => result
  | none =>
    if cs.any forbidden.contains then .error .badCharacter
    else .ok (.name (String.ofList (percentEncode isPrintable (Utf8.encodeChars cs))))

end Host

end GatewayProvisioning.Url
