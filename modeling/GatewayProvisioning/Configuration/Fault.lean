import GatewayProvisioning.Document.ReadError
import GatewayProvisioning.Files.Fault

/-!
Why a configuration cannot be used.
-/

namespace GatewayProvisioning

/-- Why a configuration cannot be used. Of a malformed text only the errors of JSON are told. -/
inductive ConfigurationFault where
  | unreadable (path : String) (fault : FileFault)
  | unknownFormat (path : String)
  | malformed (path : String) (error : Option Document.ReadError)
  | emptyHost (route : String)
  | noTimeout
  | unreadableBundle (path : String) (fault : FileFault)

/-- The wording of a fault. -/
def ConfigurationFault.message : ConfigurationFault → String
  | .unreadable path fault => "read config " ++ path ++ ": " ++ fault.message
  | .unknownFormat path => "Unknown config extension: " ++ path
  | .malformed path error =>
    "parse config " ++ path ++
      match error with
      | some e => ": " ++ e.message
      | none => ""
  | .emptyHost route => "route " ++ route ++ " has an empty host"
  | .noTimeout => "request_timeout_ms must be greater than zero"
  | .unreadableBundle path fault => "read CA bundle " ++ path ++ ": " ++ fault.message

end GatewayProvisioning
