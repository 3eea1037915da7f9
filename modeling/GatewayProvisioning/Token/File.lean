import GatewayProvisioning.Document.Codec
import GatewayProvisioning.Files.Source
import GatewayProvisioning.Json.Reader

/-!
Files that hold tokens. A bearer token stands in its file as it is or inside a JSON record of the
secret store; the token of the registry always stands in a record.
-/

namespace GatewayProvisioning.Token

open Document

/-- The token inside a record of the secret store. -/
def authCodec : Codec String :=
  (Codec.record "struct TokenAuth" <| .field (.required "client_token" .text) .none).along
    (fun (token, ()) => token) (fun token => (token, ()))

/-- A record of the secret store. -/
def fileCodec : Codec String :=
  (Codec.record "struct TokenFile" <| .field (.required "auth" authCodec) .none).along
    (fun (token, ()) => token) (fun token => (token, ()))

/-- The token of a text. -/
def ofText (path : String) (text : String) : Except Failure String :=
  let fail (fault : TokenFault) : Except Failure String := .error (.noToken fault)
  let trimmed := Text.trim text
  if trimmed.toList.head? = some (Char.ofNat 0x7B) then
    match fileCodec.decode (Json.document trimmed) with
    | .ok token => .ok token
    | .error e => fail (.malformed path e)
  else .ok trimmed

/-- The bearer token of a file, without the blanks around it. -/
def load (files : FileSource) (path : String) : Except Failure String :=
  let fail (fault : TokenFault) : Except Failure String := .error (.noToken fault)
  match files path with
  | .error fault => fail (.unreadable path fault)
  | .ok bytes =>
    match Utf8.decode? bytes with
    | none => fail (.notText path)
    | some text => do
      let token := Text.trim (← ofText path text)
      if token.isEmpty then fail (.empty path) else .ok token

/-- The record that holds the token of the registry. -/
def secretCodec : Codec String :=
  (Codec.record "struct AccessTokenFile" <| .field (.required "SecretID" .text) .none).along
    (fun (id, ()) => id) (fun id => (id, ()))

/-- The token of the registry. It must not be blank, and the blanks around it belong to it. -/
def secretId (files : FileSource) (path : String) : Except Failure String := do
  let bytes ← files.read path
  match secretCodec.decode (Json.documentOfBytes bytes) with
  | .error e => .error (.undecodable path (.document e))
  | .ok id =>
    if Text.isAllBlank id then .error (.noToken (.emptySecret path)) else .ok id

end GatewayProvisioning.Token
