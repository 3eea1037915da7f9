import GatewayProvisioning.Document.Codec

/-!
How consumers authenticate: by tokens that they sign themselves, or by tokens that the gateway issues.
In a document the method is a record with a member `method` beside its settings; since that member
may come last, the whole record is read once before its settings are looked at.
-/

namespace GatewayProvisioning

open Document

/-! ## Reading without a type -/

namespace Document

mutual

/-- Reads a value of whatever type to its end. Lists and records may be nested `depth` deep. -/
def Node.check (depth : Nat) : Node → Except ReadError Unit
  | .null => .ok ()
  | .flag _ => .ok ()
  | .number n => do
    let _ ← readNumber n
  | .text q => do
    let _ ← q.read
  | .plain .. => .ok ()
  | .tagged _ => .error .valueExpected
  | .list members ending =>
    match depth with
    | 0 => .error .tooDeep
    | depth + 1 => do
      checkMembers depth members
      ending.checkList
  | .record members ending badKey =>
    match depth with
    | 0 => .error .tooDeep
    | depth + 1 => do
      checkFields depth members
      checkRecord badKey ending
  | .gap g => .error g.error

/-- Reads the members of a list. -/
def checkMembers (depth : Nat) : List Node → Except ReadError Unit
  | [] => .ok ()
  | v :: vs => do
    v.check depth
    checkMembers depth vs

/-- Reads the members of a record. -/
def checkFields (depth : Nat) : List (Node × Node) → Except ReadError Unit
  | [] => .ok ()
  | (k, v) :: rest => do
    k.check depth
    v.check depth
    checkFields depth rest

end

/-- A scalar that has been read without a type: only its meaning is left, and a zero has no sign. -/
def Node.settled : Node → Node
  | .plain _ (.number n) => .number n.unsignZero
  | .plain _ meaning => meaning
  | v => v

end Document

/-! ## The methods -/

/-- What the gateway needs to issue tokens. -/
structure OAuth2Settings where
  resource : String := "coredata"
  scope : String := "email"
  redirectUris : String := "https://edgex.local"
  tokenTtl : UInt64 := 3600
  deriving DecidableEq, Repr

namespace OAuth2Settings

/-- The members of token settings. -/
def fields :=
  Fields.field (.defaulted "resource" .text "coredata") <|
  .field (.defaulted "scope" .text "email") <|
  .field (.defaulted "redirect_uris" .text "https://edgex.local") <|
  .field (.defaulted "token_ttl" .uint64 3600) .none

/-- Token settings from the values of their members. -/
def ofFields : String × String × String × UInt64 × Unit → OAuth2Settings
  | (resource, scope, redirectUris, tokenTtl, ()) => { resource, scope, redirectUris, tokenTtl }

/-- The values of the members of token settings. -/
def toFields (s : OAuth2Settings) : String × String × String × UInt64 × Unit :=
  (s.resource, s.scope, s.redirectUris, s.tokenTtl, ())

/-- The title of token settings in messages. -/
def title : String := "struct OAuth2Settings"

/-- Token settings in documents. -/
def codec : Codec OAuth2Settings :=
  (Codec.record title fields).along ofFields toFields

end OAuth2Settings

/-- The kinds of credentials. -/
inductive CredentialKind where
  | jwt
  | oauth2
  deriving DecidableEq, Repr

/-- The name of a kind, which is also the name of the plugin that checks it. -/
def CredentialKind.name : CredentialKind → String
  | .jwt => "jwt"
  | .oauth2 => "oauth2"

/-- The kind of a name. -/
def CredentialKind.ofName (name : String) : Except ReadError CredentialKind :=
  if name = "jwt" then .ok .jwt
  else if name = "oauth2" then .ok .oauth2
  else .error (.unknownVariant name ["jwt", "oauth2"])

/-- Reads the name of a kind. -/
def CredentialKind.readName (v : Node) : Except ReadError CredentialKind := do
  ofName (← v.readText "variant identifier")

/-- How consumers authenticate. -/
inductive AuthMethod where
  | jwt
  | oauth2 (settings : OAuth2Settings)
  deriving DecidableEq, Repr

namespace AuthMethod

/-- The kind of credentials that a method asks for. -/
def kind : AuthMethod → CredentialKind
  | .jwt => .jwt
  | .oauth2 _ => .oauth2

/-- Reads the members of a record up to its end: the kind, if it is given, and the other members. -/
def readMembers (depth : Nat) (ending : Ending) (badKey : Option Node) (kind : Option CredentialKind) :
    List (Node × Node) → Except ReadError (Option CredentialKind × List (Node × Node))
  | [] => do
    checkRecord badKey ending
    return (kind, [])
  | (k, v) :: rest => do
    let name ← k.readText "a string"
    if name = "method" then
      if kind.isSome then throw (.duplicateField "method")
      readMembers depth ending badKey (some (← CredentialKind.readName v)) rest
    else
      v.check depth
      let (found, others) ← readMembers depth ending badKey kind rest
      return (found, (k, v.settled) :: others)

/-- The error of a list that is longer than what it stands for. -/
def tooLong (length used : Nat) : ReadError :=
  .wrongLength length (elementCount used ++ " in sequence")

/-- The method of a kind, its settings given by the members of a record. -/
def ofMembers (others : List (Node × Node)) : CredentialKind → Except ReadError AuthMethod
  | .jwt => .ok .jwt
  | .oauth2 => do
    let settings ← OAuth2Settings.fields.readRecord .closed none OAuth2Settings.fields.start others
    return .oauth2 (.ofFields settings)

/-- The method of a kind, its settings given by the members of a list. -/
def ofList (others : List Node) : CredentialKind → Except ReadError AuthMethod
  | .jwt => if others.isEmpty then .ok .jwt else .error (tooLong others.length 0)
  | .oauth2 => do
    let settings ← OAuth2Settings.fields.readList OAuth2Settings.title OAuth2Settings.fields.count
      .closed 0 (others.take OAuth2Settings.fields.count)
    if OAuth2Settings.fields.count < others.length then
      throw (tooLong others.length OAuth2Settings.fields.count)
    return .oauth2 (.ofFields settings)

/-- Methods in documents, where lists and records may be nested `depth` deep. -/
def codec (depth : Nat) : Codec AuthMethod where
  read
    | .record members ending badKey => do
      match ← readMembers (depth - 1) ending badKey none members with
      | (some kind, others) => ofMembers others kind
      | (none, _) => throw (.missingField "method")
    | .list (v :: vs) ending => do
      let kind ← CredentialKind.readName v
      checkMembers (depth - 1) vs
      ending.checkList
      ofList (vs.map Node.settled) kind
    | .list [] ending => do
      ending.checkList
      throw (.missingField "method")
    | v => .error (v.settled.mismatch "internally tagged enum AuthMethod")
  write
    | .jwt => .record [("method", .text "jwt")]
    | .oauth2 settings =>
      .record (("method", .text "oauth2") ::
        OAuth2Settings.fields.write (OAuth2Settings.toFields settings))

/-- How deep lists and records may be nested in a document. -/
def nesting : Nat := 127

end AuthMethod

/-- Kinds in documents: a name, or a record whose only member has that name and is null. -/
def CredentialKind.codec : Codec CredentialKind where
  read
    | .text q => readName (.text q)
    | .record ((k, v) :: rest) ending _ => do
      let kind ← readName k
      match v with
      | .null => pure ()
      | v => throw (v.mismatch "unit")
      match rest, ending with
      | [], .closed => return kind
      | [], .cut => throw .recordCut
      | _, _ => throw .valueExpected
    | .record [] .cut _ => .error .valueCut
    | .record [] _ (some key) => do
      let _ ← readName key
      throw .valueExpected
    | .gap .noWord => .error .valueExpected
    | .gap .cutWord => .error .valueExpected
    | .gap g => .error g.error
    | _ => .error .valueExpected
  write kind := .text kind.name

end GatewayProvisioning
