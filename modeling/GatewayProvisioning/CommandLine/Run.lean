import GatewayProvisioning.Admin.Consumers
import GatewayProvisioning.Admin.SecretStore
import GatewayProvisioning.CommandLine.Command
import GatewayProvisioning.Configuration.Reader
import GatewayProvisioning.Token.Admin

/-!
Running a command: the configuration is loaded, the command talks to the gateway and the secret store
or works on files, and what came of it is shown.
-/

namespace GatewayProvisioning

/-- Why a command fails. -/
inductive CommandFault where
  | failure (failure : Failure)
  | configuration (fault : ConfigurationFault)
  | unreadableKey (path : String) (fault : FileFault)

/-- The wording of a fault. A fault of a file is told once more after the file. -/
def CommandFault.message : CommandFault → String
  | .failure (.file path fault) => (Failure.file path fault).message ++ ": " ++ fault.message
  | .failure f => f.message
  | .configuration fault => fault.message
  | .unreadableKey path fault => "read private key " ++ path ++ ": " ++ fault.message

/-- What a command prints. -/
inductive Report where
  | nothing
  | help
  | user (name : String) (token : AccessToken)
  | token (text : String)

/-- A new consumer as it is printed. -/
def userJson (name : String) (token : AccessToken) : Json :=
  .record [("expires_in", .nat token.expiresIn.toNat), ("token", .text token.value),
    ("token_type", .text token.tokenType), ("username", .text name)]

/-- A conversation that may also fail for reasons of the program itself. -/
abbrev Session := ExceptT CommandFault Dialogue

namespace Session

/-- The result of something that needs no gateway. -/
def check {α : Type} (result : Except Failure α) : Session α :=
  ExceptT.mk (pure (result.mapError .failure))

/-- The result of something that the configuration decides. -/
def configured {α : Type} (result : Except ConfigurationFault α) : Session α :=
  ExceptT.mk (pure (result.mapError .configuration))

/-- A conversation as a part of a session. -/
def talk {α : Type} (d : Dialogue α) : Session α :=
  ExceptT.mk do return (← d.attempt).mapError .failure

end Session

namespace Configuration

/-- Makes the client of the admin interface. -/
def openAdmin (c : Configuration) (files : FileSource) : Session Unit := do
  let options ← Session.configured (c.adminOptions files)
  Session.check options.validate

/-- Makes the client of the secret store. -/
def openSecretStore (c : Configuration) (files : FileSource) : Session Unit := do
  let options ← Session.configured (c.secretStoreOptions files)
  Session.check options.validate

/-- Refuses an outcome of an upload, unless the certificate is on the gateway after it. -/
def acceptUpload (endpoint : String) (outcome : UploadOutcome) : Except Failure Unit :=
  match outcome.result endpoint with
  | .ok () => .ok ()
  | .error failure => if failure.isConflict then .ok () else .error failure

/-- Brings the certificate of the secret store to the gateway. -/
def uploadCertificate (c : Configuration) (files : FileSource) : Session Unit := do
  c.openSecretStore files
  Session.talk c.secretStore.checkStatus
  let pair ← Session.talk (c.secretStore.loadValidated files)
  let outcome ← Session.talk (c.provisioning.postCert files pair c.secretStore.snis)
  let endpoint := c.gateway.adminBase ++ "/" ++ Provisioning.certificates
  Session.check (acceptUpload endpoint outcome)

/-- Creates everything on the gateway. -/
def init (c : Configuration) (files : FileSource) : Session Unit := do
  c.openAdmin files
  Session.talk c.provisioning.checkStatus
  if c.secretStore.uploadOnInit then c.uploadCertificate files
  Session.talk (c.provisioning.init files)

/-- Deletes everything on the gateway. -/
def reset (c : Configuration) (files : FileSource) : Session Unit := do
  c.openAdmin files
  Session.talk (c.provisioning.reset files)

/-- Access to the consumers of the gateway, with the token of the administrator or of the root. -/
def consumers (c : Configuration) (files : FileSource) (asRoot : Bool) : Session Consumers := do
  let path := if asRoot then c.rootTokenFile else c.bearerTokenFile
  let token ← Session.check (Token.load files path)
  c.openAdmin files
  return { admin := { base := c.gateway.adminBase, token }, gateway := c.gateway, auth := c.auth }

/-- What the token of a new consumer is to be. -/
def tokenOptions (o : UserOptions) : TokenOptions where
  audience := o.audience
  span := o.signedSpan.or o.span

/-- Creates a consumer with a token. -/
def addUser (c : Configuration) (files : FileSource) (now : Int) (o : UserOptions) :
    Session Report := do
  let consumers ← c.consumers files o.asRoot
  let (consumer, token) ←
    Session.talk (consumers.addUser now o.user [c.acl.group] (tokenOptions o))
  return .user consumer.name token

/-- Deletes a consumer. -/
def deleteUser (c : Configuration) (files : FileSource) (user : String) (asRoot : Bool) :
    Session Unit := do
  let consumers ← c.consumers files asRoot
  Session.talk (consumers.delete user)

/-- Where a pair is installed: the caller's choices go before those of the configuration. -/
def destination (c : Configuration) (o : InstallOptions) : TlsDestination :=
  let d := c.tlsDestination o.folder
  { d with certName := o.certName.getD d.certName, keyName := o.keyName.getD d.keyName }

end Configuration

/-- Signs a token of an administrator with the key of a file. -/
def SigningOptions.sign (o : SigningOptions) (files : FileSource) (now : Int) :
    Except CommandFault String := do
  let algorithm ← (Token.AdminAlgorithm.ofName o.algorithm).mapError .failure
  let pem ← (files o.keyFile).mapError (.unreadableKey o.keyFile)
  (Token.signAdmin algorithm pem o.issuer o.span now).mapError .failure

/-- Runs a command on a file system. The answer holds the file system after it. -/
def Command.run (command : Command) (c : Configuration) (now : Int) (disk : Disk) :
    Dialogue (Except CommandFault Report × Disk) :=
  let kept (session : Session Report) : Dialogue (Except CommandFault Report × Disk) := do
    return (← session.run, disk)
  match command with
  | .init => kept do
    c.init disk.read
    return .nothing
  | .reset => kept do
    c.reset disk.read
    return .nothing
  | .addUser o => kept (c.addUser disk.read now o)
  | .deleteUser user asRoot => kept do
    c.deleteUser disk.read user asRoot
    return .nothing
  | .install o =>
    let (result, after) := ((c.destination o).install o.cert o.key).run disk
    pure ((result.map fun _ => Report.nothing).mapError .failure, after)
  | .sign o => pure ((o.sign disk.read now).map .token, disk)

/-- The files that a command may look at. -/
def Command.files (c : Configuration) : Command → List String
  | .init =>
    [c.gateway.caFile, c.secretStore.caFilePath, c.secretStore.tokenFile, c.bearerTokenFile,
      c.accessTokenFile]
  | .reset => [c.gateway.caFile, c.bearerTokenFile]
  | .addUser o => [c.gateway.caFile, if o.asRoot then c.rootTokenFile else c.bearerTokenFile]
  | .deleteUser _ asRoot => [c.gateway.caFile, if asRoot then c.rootTokenFile else c.bearerTokenFile]
  | .install o =>
    let d := c.destination o
    [o.cert, o.key, d.folder, Path.join d.folder d.certName, Path.join d.folder d.keyName]
  | .sign o => [o.keyFile]

/-- What a run of the program shows. -/
structure Outcome where
  exit : Nat
  report : Report
  error : Option CommandFault
  disk : Disk

namespace CommandLine

/-- The exit code of a line without a command. -/
def exitUsage : Nat := 1

/-- The exit code of a run that fails. -/
def exitFailure : Nat := 2

/-- The configuration of a file; a file that is not there stands for the defaults. -/
def configuration (disk : Disk) (path : String) : Except ConfigurationFault Configuration :=
  if disk.holds path then Configuration.load disk.read path else .ok {}

/-- What a run that fails shows. -/
def failed (fault : CommandFault) (disk : Disk) : Outcome :=
  { exit := exitFailure, report := .nothing, error := some fault, disk }

/-- Runs the program. -/
def run (line : CommandLine) (environment : String → Option String) (now : Int) (disk : Disk) :
    Dialogue Outcome :=
  match line.command with
  | none => pure { exit := exitUsage, report := .help, error := none, disk }
  | some command =>
    match configuration disk line.config with
    | .error fault => pure (failed (.configuration fault) disk)
    | .ok c => do
      let (result, disk) ← command.run (c.withEnvironment environment) now disk
      match result with
      | .ok report => return { exit := 0, report, error := none, disk }
      | .error fault => return failed fault disk

end CommandLine

end GatewayProvisioning
