import GatewayProvisioning.Text.Quoted
import GatewayProvisioning.Decimal.Number

/-!
What can be wrong with a document: errors of its form, and values that are not of the type that is
asked for.
-/

namespace GatewayProvisioning.Document

/-- What was found in place of a value of the right type. -/
inductive Found where
  | null
  | flag (b : Bool)
  | number (n : Decimal.Number)
  | text (s : String)
  | list
  | record

/-- What is wrong with a document. -/
inductive ReadError where
  | listCut
  | recordCut
  | valueCut
  | textCut
  | colonExpected
  | listEndExpected
  | recordEndExpected
  | wordExpected
  | valueExpected
  | badEscape
  | badNumber
  | numberTooLarge
  | badCodePoint
  | controlCharacter
  | keyNotText
  | loneSurrogate
  | surrogateCut
  | commaAtEnd
  | more
  | tooDeep
  | wrongType (found : Found) (expected : String)
  | wrongValue (found : Found) (expected : String)
  | wrongLength (length : Nat) (expected : String)
  | unknownVariant (name : String) (expected : List String)
  | missingField (name : String)
  | duplicateField (name : String)

/-- What was found, as messages name it. -/
def Found.shown : Found → String
  | .null => "null"
  | .flag b => "boolean `" ++ (if b then "true" else "false") ++ "`"
  | .number (.float x) => "floating point `" ++ Decimal.ofFloat x ++ "`"
  | .number n => "integer `" ++ n.write ++ "`"
  | .text s => "string " ++ Text.quoted s
  | .list => "sequence"
  | .record => "map"

/-- A choice of names, as messages list it. -/
def choice (names : List String) : String :=
  "expected " ++ " or ".intercalate (names.map fun n => "`" ++ n ++ "`")

/-- A count of elements, as messages name it. -/
def elementCount (n : Nat) : String :=
  Decimal.ofNat n ++ (if n = 1 then " element" else " elements")

/-- The wording of an error. -/
def ReadError.message : ReadError → String
  | .listCut => "EOF while parsing a list"
  | .recordCut => "EOF while parsing an object"
  | .valueCut => "EOF while parsing a value"
  | .textCut => "EOF while parsing a string"
  | .colonExpected => "expected `:`"
  | .listEndExpected => "expected `,` or `]`"
  | .recordEndExpected => "expected `,` or `\x7d`"
  | .wordExpected => "expected ident"
  | .valueExpected => "expected value"
  | .badEscape => "invalid escape"
  | .badNumber => "invalid number"
  | .numberTooLarge => "number out of range"
  | .badCodePoint => "invalid unicode code point"
  | .controlCharacter => "control character (\\u0000-\\u001F) found while parsing a string"
  | .keyNotText => "key must be a string"
  | .loneSurrogate => "lone leading surrogate in hex escape"
  | .surrogateCut => "unexpected end of hex escape"
  | .commaAtEnd => "trailing comma"
  | .more => "trailing characters"
  | .tooDeep => "recursion limit exceeded"
  | .wrongType found expected => "invalid type: " ++ found.shown ++ ", expected " ++ expected
  | .wrongValue found expected => "invalid value: " ++ found.shown ++ ", expected " ++ expected
  | .wrongLength n expected => "invalid length " ++ Decimal.ofNat n ++ ", expected " ++ expected
  | .unknownVariant name names => "unknown variant `" ++ name ++ "`, " ++ choice names
  | .missingField name => "missing field `" ++ name ++ "`"
  | .duplicateField name => "duplicate field `" ++ name ++ "`"

end GatewayProvisioning.Document
