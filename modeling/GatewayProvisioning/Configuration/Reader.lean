import GatewayProvisioning.Configuration.Basic
import GatewayProvisioning.Toml.Reader
import GatewayProvisioning.Yaml.Reader

/-!
Configurations in files. The end of a file's path tells its format.
-/

namespace GatewayProvisioning

open Document

/-- The formats of configuration files. -/
inductive ConfigurationFormat where
  | yaml
  | json
  | toml
  deriving DecidableEq, Repr

namespace ConfigurationFormat

/-- The endings of paths, with the format that each stands for. -/
def endings : List (String × ConfigurationFormat) :=
  [(".yaml", .yaml), (".yml", .yaml), (".json", .json), (".toml", .toml)]

/-- The format of a file. -/
def ofPath? (path : String) : Option ConfigurationFormat :=
  (endings.find? fun (ending, _) => ending.toList.isSuffixOf path.toList).map Prod.snd

/-- The document of a text in a format. -/
def document? (format : ConfigurationFormat) (text : String) : Option Whole :=
  match format with
  | .yaml => Yaml.document? text
  | .json => some (Json.document text)
  | .toml => Toml.document? text

end ConfigurationFormat

namespace Configuration

/-- The configuration that a text holds. -/
def ofText (path : String) (format : ConfigurationFormat) (text : String) :
    Except ConfigurationFault Configuration :=
  match format.document? text with
  | none => .error (.malformed path none)
  | some document =>
    (codec.decode document).mapError fun e =>
      .malformed path (if format = .json then some e else none)

/-- Reads a configuration from a file. -/
def load (files : FileSource) (path : String) : Except ConfigurationFault Configuration := do
  let bytes ← (files path).mapError (.unreadable path)
  let some text := Utf8.decode? bytes | throw (.unreadable path .notText)
  let some format := ConfigurationFormat.ofPath? path | throw (.unknownFormat path)
  (← ofText path format text).normalized

end Configuration

end GatewayProvisioning
