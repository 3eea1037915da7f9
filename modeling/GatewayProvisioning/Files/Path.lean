import GatewayProvisioning.Files.Fault
import GatewayProvisioning.Text.Basic

/-!
Paths as texts: the steps that they consist of, joining, and the paths above a path. A path is
followed step by step; empty steps do not count.
-/

namespace GatewayProvisioning.Path

/-- A path that does not begin where the program runs. -/
def isAbsolute (path : String) : Bool :=
  path.toList.head? == some '/'

/-- A path that asks for a folder by its last character. -/
def endsInSlash (path : String) : Bool :=
  path.toList.getLast? == some '/'

/-- The steps of a path. -/
def steps (path : String) : List String :=
  ((Text.splitWhere (· == '/') path.toList).filter (!·.isEmpty)).map String.ofList

/-- The path of a name in a folder. An absolute name stands for itself. -/
def join (folder name : String) : String :=
  if isAbsolute name || folder.isEmpty then name
  else if endsInSlash folder then folder ++ name
  else folder ++ "/" ++ name

/-- The folder of a path and its name in that folder. -/
def split (path : String) : String × String :=
  ((if isAbsolute path then "/" else "") ++ "/".intercalate (steps path).dropLast,
    (steps path).getLast?.getD "")

/-- Steps without those that stay in place; a step that begins a relative path counts. -/
def withoutStays (absolute : Bool) : List String → List String
  | [] => []
  | first :: rest =>
    if absolute then (first :: rest).filter (· ≠ ".") else first :: rest.filter (· ≠ ".")

/-- The rows of steps above a row of steps, the longest first. -/
def shorter (steps : List String) : List (List String) :=
  (List.range steps.length).reverse.filterMap fun n => if n = 0 then none else some (steps.take n)

/-- The steps of a path, followed by those of the paths above it, up to the place where the path
begins. -/
def ancestors (path : String) : List (List String) :=
  steps path :: shorter (withoutStays (isAbsolute path) (steps path))

/-- The greatest number of bytes of a name. -/
def nameLimit : Nat := 255

/-- The number of bytes from which on a path is too long. -/
def lengthLimit : Nat := 4096

/-- Why a text cannot be a path at all. -/
def check (path : String) : Except FileFault Unit :=
  if path.toList.contains '\x00' then .error .nulInPath
  else if path.isEmpty then .error (.system .noEntry)
  else if lengthLimit ≤ path.utf8ByteSize then .error (.system .nameTooLong)
  else .ok ()

end GatewayProvisioning.Path
