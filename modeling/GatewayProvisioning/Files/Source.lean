import GatewayProvisioning.Failure
import GatewayProvisioning.Text.Utf8

/-!
Where files are read from.
-/

namespace GatewayProvisioning

/-- The contents of each file, or why it cannot be read. -/
abbrev FileSource := String → Except FileFault Bytes

/-- Reads a file. -/
def FileSource.read (files : FileSource) (path : String) : Except Failure Bytes :=
  (files path).mapError (.file path)

end GatewayProvisioning
