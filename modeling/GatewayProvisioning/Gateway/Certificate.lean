import GatewayProvisioning.Document.Codec
import GatewayProvisioning.Failure

/-!
The certificate of the gateway and its private key, as texts.
-/

namespace GatewayProvisioning

open Document

/-- A certificate and its private key. -/
structure CertPair where
  cert : String
  key : String
  deriving DecidableEq, Repr

namespace CertPair

/-- Pairs in documents. -/
def codec : Codec CertPair :=
  (Codec.record "struct CertPair" <|
      .field (.required "cert" .text) <|
      .field (.required "key" .text) .none).along
    (fun (cert, key, ()) => ⟨cert, key⟩) (fun p => (p.cert, p.key, ()))

/-- Refuses a pair of which a part is empty. -/
def validate (p : CertPair) : Except Failure Unit :=
  if p.cert.isEmpty || p.key.isEmpty then .error .emptyPair else .ok ()

/-- The pair inside an answer of the secret store. -/
def secretCodec : Codec CertPair :=
  (Codec.record "struct CertSecret" <| .field (.required "data" codec) .none).along
    (fun (data, ()) => data) (fun p => (p, ()))

/-- The body of the request that uploads the pair for server names. -/
def upload (p : CertPair) (snis : List String) : Json :=
  .record [("cert", .text p.cert), ("key", .text p.key), ("snis", .texts snis)]

end CertPair

/-- The server names that every gateway certificate is for. -/
def builtinServerNames : List String :=
  ["localhost", "kong"]

/-- The server names of a certificate: the builtin ones and those of a comma separated list. -/
def serverNames (extra : String) : List String :=
  Text.mergeUnique builtinServerNames (Text.commaItems extra)

/-- What has become of an uploaded certificate. -/
inductive UploadOutcome where
  | uploaded
  | present
  | refused (status : UInt16) (body : String)
  deriving DecidableEq, Repr

/-- An outcome as a result: everything but a new certificate is a failure. -/
def UploadOutcome.result (endpoint : String) : UploadOutcome → Except Failure Unit
  | .uploaded => .ok ()
  | .present => .error (.certificateConflict "existing certificate")
  | .refused status body => .error (.refused endpoint status body)

end GatewayProvisioning
