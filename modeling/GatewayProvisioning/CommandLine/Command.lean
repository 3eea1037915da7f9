import GatewayProvisioning.CommandLine.Grammar
import GatewayProvisioning.CommandLine.Span

/-!
The commands of the program and their options.
-/

namespace GatewayProvisioning

/-- How the token of a new consumer is to be made. The lifetime for signed tokens goes before that
for tokens of any kind. -/
structure UserOptions where
  user : String
  span : Option Duration
  audience : Option String
  signedSpan : Option Duration
  asRoot : Bool
  deriving DecidableEq, Repr

/-- What is to be installed, and where, as far as the caller says it. -/
structure InstallOptions where
  cert : String
  key : String
  folder : Option String
  certName : Option String
  keyName : Option String
  deriving DecidableEq, Repr

/-- How a token of an administrator is to be signed. -/
structure SigningOptions where
  algorithm : String
  keyFile : String
  issuer : String
  span : Duration
  deriving DecidableEq, Repr

/-- The commands of the program. -/
inductive Command where
  | init
  | reset
  | addUser (options : UserOptions)
  | deleteUser (user : String) (asRoot : Bool)
  | install (options : InstallOptions)
  | sign (options : SigningOptions)
  deriving DecidableEq, Repr

/-- A command line: where the configuration is, and what is to be done. -/
structure CommandLine where
  config : String
  command : Option Command
  deriving DecidableEq, Repr

namespace CommandLine

/-! ## Options -/

/-- An option whose value is any text. -/
def textOption (name : String) : OptionRule :=
  { name, kind := .value fun _ => none }

/-- An option whose value is a path, which is not empty. -/
def pathOption (name : String) : OptionRule :=
  { name, kind := .value fun s => if s.isEmpty then some .noValue else none }

/-- An option whose value is a span of time. -/
def spanOption (name : String) : OptionRule :=
  { name, kind := .value fun s => if (Duration.read? s).isSome then none else some .badValue }

/-- An option without a value. -/
def switchOption (name : String) : OptionRule :=
  { name, kind := .switch }

/-- The option that asks for help, which every command has. -/
def helpOption : OptionRule :=
  { name := "help", short := some 'h', kind := .question .help }

/-- The option that asks for the version of the program. -/
def versionOption : OptionRule :=
  { name := "version", short := some 'V', kind := .question .version }

/-- The option that names the configuration. -/
def configOption : OptionRule :=
  { textOption "config" with short := some 'c' }

/-- Where the configuration is unless the line says it. -/
def defaultConfig : String := "./config.yaml"

/-- The lifetime of a token of an administrator unless the line says it. -/
def defaultSpan : Duration := ⟨3600, 0⟩

/-! ## Commands -/

/-- The commands, each with its options. -/
def commandOptions : List (String × List OptionRule) :=
  [("init", []),
    ("reset", []),
    ("adduser", [textOption "user", spanOption "tokenTTL", textOption "jwtAudience",
      spanOption "jwtTTL", switchOption "useRootToken"]),
    ("deluser", [textOption "user", switchOption "useRootToken"]),
    ("tls", [pathOption "inCert", pathOption "inKey", textOption "targetFolder",
      textOption "certFilename", textOption "keyFilename"]),
    ("jwt", [textOption "algorithm", pathOption "private_key", textOption "id",
      spanOption "expiration"])]

/-- The command that asks for help. -/
def helpCommand : String := "help"

/-- What stands on a line before the command. -/
def grammar : Grammar where
  options := [configOption, helpOption, versionOption]
  commands := commandOptions.map Prod.fst ++ [helpCommand]

/-- What stands on a line after the command. -/
def commandGrammar (name : String) : Grammar where
  options := (commandOptions.lookup name).getD [] ++ [helpOption]

/-- The value of an option that must be there. -/
def required (i : Intake) (name : String) : Except UsageFault String :=
  match i.value? name with
  | some value => .ok value
  | none => .error .missing

/-- The span of time that an option gives. -/
def span? (i : Intake) (name : String) : Option Duration :=
  (i.value? name).bind Duration.read?

/-- The command of a name with the options that have been taken. -/
def commandOf (name : String) (i : Intake) : Except UsageFault Command :=
  match name with
  | "init" => .ok .init
  | "reset" => .ok .reset
  | "adduser" => do
    return .addUser {
      user := ← required i "user"
      span := span? i "tokenTTL"
      audience := i.value? "jwtAudience"
      signedSpan := span? i "jwtTTL"
      asRoot := i.has "useRootToken" }
  | "deluser" => do return .deleteUser (← required i "user") (i.has "useRootToken")
  | "tls" => do
    return .install {
      cert := ← required i "inCert"
      key := ← required i "inKey"
      folder := i.value? "targetFolder"
      certName := i.value? "certFilename"
      keyName := i.value? "keyFilename" }
  | "jwt" => do
    return .sign {
      algorithm := ← required i "algorithm"
      keyFile := ← required i "private_key"
      issuer := ← required i "id"
      span := (span? i "expiration").getD defaultSpan }
  | _ => .error .unknownCommand

/-- Reads a command from what follows its name. -/
def readCommand (name : String) (args : List String) : Except UsageFault Command := do
  let (i, _) ← (commandGrammar name).read {} args
  commandOf name (← i.settle)

/-- What a question for help is answered: there is help for the program and for each command. -/
def helpFault (about : List String) : UsageFault :=
  match about with
  | [] => .help
  | [name] => if grammar.commands.contains name then .help else .unknownCommand
  | _ => .unknownCommand

/-- Reads the arguments of the program. -/
def read (args : List String) : Except UsageFault CommandLine := do
  let (i, found) ← grammar.read {} args
  let command ← match found with
    | none => pure none
    | some (name, rest) =>
      if name = helpCommand then throw (helpFault rest)
      else some <$> readCommand name rest
  let i ← i.settle
  return { config := (i.value? "config").getD defaultConfig, command }

end CommandLine

end GatewayProvisioning
