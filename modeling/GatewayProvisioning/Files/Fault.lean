import GatewayProvisioning.Decimal.Digits

/-!
Why a file cannot be read or written.
-/

namespace GatewayProvisioning

/-- Why the system refuses a file operation. -/
inductive SystemError where
  | noEntry
  | exists
  | notFolder
  | isFolder
  | noSpace
  | nameTooLong
  | notPermitted
  | invalid
  | other (number : Nat) (text : String)
  deriving DecidableEq, Repr

/-- The number of a system error. -/
def SystemError.number : SystemError → Nat
  | .noEntry => 2
  | .exists => 17
  | .notFolder => 20
  | .isFolder => 21
  | .noSpace => 28
  | .nameTooLong => 36
  | .notPermitted => 1
  | .invalid => 22
  | .other number _ => number

/-- The wording of a system error, without its number. -/
def SystemError.text : SystemError → String
  | .noEntry => "No such file or directory"
  | .exists => "File exists"
  | .notFolder => "Not a directory"
  | .isFolder => "Is a directory"
  | .noSpace => "No space left on device"
  | .nameTooLong => "File name too long"
  | .notPermitted => "Operation not permitted"
  | .invalid => "Invalid argument"
  | .other _ text => text

/-- Why a file cannot be read or written. -/
inductive FileFault where
  | absent
  | system (error : SystemError)
  | notText
  | nulInPath
  | stated (text : String)
  deriving DecidableEq, Repr

/-- The wording of a fault. -/
def FileFault.message : FileFault → String
  | .absent => "entity not found"
  | .system error => error.text ++ " (os error " ++ Decimal.ofNat error.number ++ ")"
  | .notText => "stream did not contain valid UTF-8"
  | .nulInPath => "file name contained an unexpected NUL byte"
  | .stated text => text

end GatewayProvisioning
