import GatewayProvisioning.Gateway.Auth

/-!
Consumers of the gateway, their credentials and their tokens.
-/

namespace GatewayProvisioning

open Document

/-- A consumer and the groups it belongs to. -/
structure Consumer where
  name : String
  groups : List String
  kind : CredentialKind
  deriving DecidableEq, Repr

/-- Consumers in documents. -/
def Consumer.codec : Codec Consumer :=
  (Codec.record "struct Consumer" <|
      .field (.required "name" .text) <|
      .field (.defaulted "groups" (.list .text) []) <|
      .field (.required "kind" CredentialKind.codec) .none).along
    (fun (name, groups, kind, ()) => ⟨name, groups, kind⟩)
    (fun c => (c.name, c.groups, c.kind, ()))

/-- What a consumer signs its own tokens with. -/
structure JwtCredential where
  key : String
  secret : String
  deriving DecidableEq, Repr

/-- Signing credentials in documents. -/
def JwtCredential.codec : Codec JwtCredential :=
  (Codec.record "struct JwtCredential" <|
      .field (.required "key" .text) <|
      .field (.required "secret" .text) .none).along
    (fun (key, secret, ()) => ⟨key, secret⟩) (fun c => (c.key, c.secret, ()))

/-- What a consumer asks the gateway for tokens with. -/
structure ClientCredential where
  clientId : String
  clientSecret : String
  deriving DecidableEq, Repr

/-- Client credentials in documents. -/
def ClientCredential.codec : Codec ClientCredential :=
  (Codec.record "struct OAuth2ClientCredential" <|
      .field (.required "client_id" .text) <|
      .field (.required "client_secret" .text) .none).along
    (fun (clientId, clientSecret, ()) => ⟨clientId, clientSecret⟩)
    (fun c => (c.clientId, c.clientSecret, ()))

/-- The client credential of a consumer: its name is both id and secret. -/
def ClientCredential.ofConsumer (name : String) : ClientCredential :=
  ⟨name, name⟩

/-- What the gateway has issued to a consumer. -/
inductive Material where
  | jwt (credential : JwtCredential)
  | oauth2 (credential : ClientCredential)
  deriving DecidableEq, Repr

/-- A token and its lifetime in seconds; no lifetime is written as zero. -/
structure AccessToken where
  value : String
  tokenType : String := "bearer"
  expiresIn : UInt64 := 0
  deriving DecidableEq, Repr

/-- Tokens in documents. -/
def AccessToken.codec : Codec AccessToken :=
  (Codec.record "struct AccessToken" <|
      .field (.required "access_token" .text) <|
      .field (.defaulted "token_type" .text "bearer") <|
      .field (.defaulted "expires_in" .uint64 0) .none).along
    (fun (value, tokenType, expiresIn, ()) => ⟨value, tokenType, expiresIn⟩)
    (fun t => (t.value, t.tokenType, t.expiresIn, ()))

end GatewayProvisioning
