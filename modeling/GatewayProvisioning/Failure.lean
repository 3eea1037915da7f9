import GatewayProvisioning.Document.ReadError
import GatewayProvisioning.Files.Fault
import GatewayProvisioning.Pem.Fault
import GatewayProvisioning.Signature.Fault
import GatewayProvisioning.Url.Fault

/-!
Why an operation of the program fails. A cause that comes from elsewhere, and is known only by what
others say of it, is `stated`.
-/

namespace GatewayProvisioning

/-- What is wrong with a route in a list of routes. -/
inductive RouteFault where
  | noSeparator
  | emptyName
  | badUrl (fault : Url.Fault)
  | emptyHost
  | noPort
  | stated (text : String)

/-- Why there is no token. -/
inductive TokenFault where
  | unreadable (path : String) (fault : FileFault)
  | notText (path : String)
  | malformed (path : String) (error : Document.ReadError)
  | empty (path : String)
  | emptySecret (path : String)
  | stated (text : String)

/-- Why data cannot be made sense of. -/
inductive DecodeFault where
  | document (error : Document.ReadError)
  | linkVisited
  | pem (fault : Pem.Fault)
  | noCertificates
  | noPrivateKey
  | stated (text : String)

/-- What is wrong with the configuration. -/
inductive ConfigFault where
  | noAccessTokenFile
  | badBundle
  | emptyBundle
  | badAuthority
  | stated (text : String)

/-- What is wrong with a credential. -/
inductive CredentialFault where
  | emptyCredential
  | emptyIssuer
  | unknownAlgorithm (name : String)
  | badKey (algorithm : String)
  | noKeyString (algorithm : String)
  | signing (fault : Signature.KeyFault)
  | wrongMaterial
  | stated (text : String)

/-- Why an operation fails. -/
inductive Failure where
  | badRoute (entry : String) (fault : RouteFault)
  | alreadyExists (endpoint : String)
  | refused (endpoint : String) (status : UInt16) (body : String)
  | notDeleted (endpoint collection id : String) (status : UInt16) (body : String)
  | noToken (fault : TokenFault)
  | certificateConflict (body : String)
  | unreachable (endpoint reason : String)
  | file (path : String) (fault : FileFault)
  | undecodable (context : String) (fault : DecodeFault)
  | badConfig (fault : ConfigFault)
  | badCredential (fault : CredentialFault)
  | emptyPair

/-- The wording of a route fault. -/
def RouteFault.message : RouteFault → String
  | .noSeparator => "expected `name.scheme://host:port`"
  | .emptyName => "empty service name"
  | .badUrl fault => fault.message
  | .emptyHost => "empty host"
  | .noPort => "missing port"
  | .stated text => text

/-- The wording of a file fault, with the file. -/
def FileFault.at (path : String) (fault : FileFault) : String :=
  "file " ++ path ++ ": " ++ fault.message

/-- The wording of a token fault. -/
def TokenFault.message : TokenFault → String
  | .unreadable path fault => "cannot read token file " ++ path ++ ": " ++ fault.at path
  | .notText path => "token file " ++ path ++ " is not utf-8"
  | .malformed path error => "token file " ++ path ++ ": " ++ error.message
  | .empty path => "token file " ++ path ++ " holds an empty token"
  | .emptySecret path => "access token file " ++ path ++ " holds an empty SecretID"
  | .stated text => text

/-- The wording of a decoding fault. -/
def DecodeFault.message : DecodeFault → String
  | .document error => error.message
  | .linkVisited => "pagination loop: next link already visited"
  | .pem fault => fault.message
  | .noCertificates => "no certificates found"
  | .noPrivateKey => "no private key found"
  | .stated text => text

/-- The wording of a configuration fault. -/
def ConfigFault.message : ConfigFault → String
  | .noAccessTokenFile => "access token file is not configured"
  | .badBundle => "invalid CA bundle: builder error"
  | .emptyBundle => "CA bundle holds no certificates"
  | .badAuthority => "http client: builder error"
  | .stated text => text

/-- The wording of a credential fault. -/
def CredentialFault.message : CredentialFault → String
  | .emptyCredential => "empty jwt credential"
  | .emptyIssuer => "issuer id must not be empty"
  | .unknownAlgorithm name => "unsupported algorithm " ++ name ++ ", expected RS256 or ES256"
  | .badKey algorithm => "invalid " ++ algorithm ++ " private key: InvalidKeyFormat"
  | .noKeyString algorithm => "invalid " ++ algorithm ++ " private key: InvalidEcdsaKey"
  | .signing fault => "sign admin token: " ++ fault.message
  | .wrongMaterial => "oauth2 credential issued while jwt is configured"
  | .stated text => text

/-- A status and what was answered with it. -/
def shownAnswer (status : UInt16) (body : String) : String :=
  "status " ++ Decimal.ofNat status.toNat ++ ": " ++ body

namespace Failure

/-- The wording of a failure. -/
def message : Failure → String
  | .badRoute entry fault => "invalid route entry `" ++ entry ++ "`: " ++ fault.message
  | .alreadyExists endpoint => "object already exists at " ++ endpoint
  | .refused endpoint status body =>
    "request to " ++ endpoint ++ " failed with " ++ shownAnswer status body
  | .notDeleted endpoint collection id status body =>
    "failed to delete " ++ id ++ " from " ++ collection ++ " at " ++ endpoint ++ " with " ++
      shownAnswer status body
  | .noToken fault => "authentication material unavailable: " ++ fault.message
  | .certificateConflict body => "certificate already uploaded: " ++ body
  | .unreachable endpoint reason => "failed to reach " ++ endpoint ++ ": " ++ reason
  | .file path fault => fault.at path
  | .undecodable context fault => "unable to decode " ++ context ++ ": " ++ fault.message
  | .badConfig fault => "configuration error: " ++ fault.message
  | .badCredential fault => "credential error: " ++ fault.message
  | .emptyPair => "empty certificate pair"

/-- The status that the failure stands for, if it comes from an answer of the gateway. -/
def status? : Failure → Option UInt16
  | .refused _ status _ => some status
  | .notDeleted _ _ _ status _ => some status
  | .alreadyExists _ => some 409
  | .certificateConflict _ => some 409
  | _ => none

/-- Whether something was there already. -/
def isConflict : Failure → Bool
  | .alreadyExists _ => true
  | .certificateConflict _ => true
  | _ => false

/-- Whether authentication material is missing. -/
def isMissingToken : Failure → Bool
  | .noToken _ => true
  | _ => false

end Failure

end GatewayProvisioning
