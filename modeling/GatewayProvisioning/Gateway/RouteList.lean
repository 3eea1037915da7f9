import GatewayProvisioning.Failure
import GatewayProvisioning.Gateway.Route
import GatewayProvisioning.Url.Reader

/-!
Additional routes, given as a comma separated list of `name.scheme://host:port`. One entry that is
malformed spoils the whole list. A configured route is never displaced by an additional one.
-/

namespace GatewayProvisioning

namespace RouteList

/-- What follows the last member that satisfies `p`, or everything if there is none. -/
def afterLast (p : Char → Bool) (cs : List Char) : List Char :=
  match Text.splitLast? p cs with
  | some (_, rest) => rest
  | none => cs

/-- Whether the text of a URL spells out a port of digits. -/
def spellsPort (url : List Char) : Bool :=
  match Text.splitAtMark? "://".toList url with
  | none => false
  | some (_, rest) =>
    let authority := rest.takeWhile fun c => !(c == '/' || c == '?' || c == '#')
    let hostPort := afterLast (· == ']') (afterLast (· == '@') authority)
    match Text.splitLast? (· == ':') hostPort with
    | some (_, port) => !port.isEmpty && port.all Text.isDigit
    | none => false

/-- The port of a URL if its text gives one; the port that its scheme implies counts only if it is
spelled out. -/
def port? (url : Url) (text : List Char) : Option Nat :=
  match url.port with
  | some port => some port
  | none => if spellsPort text then url.effectivePort? else none

/-- Reads one entry; the name ends at the first dot. -/
def readEntry (entry : String) : Except Failure Route :=
  let fail (fault : RouteFault) : Except Failure Route := .error (.badRoute entry fault)
  match Text.splitFirst? (· == '.') entry.toList with
  | none => fail .noSeparator
  | some (before, text) =>
    let name := Text.trim (String.ofList before)
    if name.isEmpty then fail .emptyName
    else
      match Url.parse (String.ofList text) with
      | .error fault => fail (.badUrl fault)
      | .ok url =>
        match (url.host.map Url.Host.write).filter (!·.isEmpty) with
        | none => fail .emptyHost
        | some host =>
          match port? url text with
          | none => fail .noPort
          | some port => .ok { name, protocol := url.scheme, host, port := UInt16.ofNat port }

/-- Reads entries one after the other; of several with one name the first counts. -/
def readEntries (before : Routes) : List String → Except Failure Routes
  | [] => .ok before
  | entry :: rest => do
    let route ← readEntry entry
    readEntries (before.insertNew route.name route) rest

/-- Reads a list of routes. -/
def read (list : String) : Except Failure Routes :=
  readEntries .empty (Text.commaItems list)

end RouteList

/-- Configured routes together with a list of additional ones. A malformed list adds nothing. -/
def Routes.effective (configured : Routes) (list : Option String) : Routes :=
  match list.map RouteList.read with
  | some (.ok additional) => configured.union additional
  | _ => configured.union .empty

end GatewayProvisioning
