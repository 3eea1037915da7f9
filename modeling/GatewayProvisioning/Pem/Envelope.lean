import GatewayProvisioning.Text.Base64

/-!
The first PEM section of a file as a label and its content, whatever the label is. The section may
have header lines before a blank line.
-/

namespace GatewayProvisioning.Pem

/-- A label and the content that it describes. -/
structure Envelope where
  label : String
  content : Bytes
  deriving DecidableEq, Repr

/-- The lines of a text, without what ends them. -/
def textLines (cs : List Char) : List (List Char) :=
  (Text.splitWhere (· == '\n') cs).map fun line =>
    if line.getLast? = some '\r' then line.dropLast else line

/-- Header lines and data of the text of a section. -/
def splitHeaders (cs : List Char) : List Char × List Char :=
  match Text.splitAtMark? ['\n', '\n'] cs with
  | some (headers, data) => (headers, data)
  | none =>
    match Text.splitAtMark? ['\r', '\n', '\r', '\n'] cs with
    | some (headers, data) => (headers, data)
    | none => ([], cs)

/-- Whether a line is a header: a name, a colon and a value. -/
def isHeader (line : List Char) : Bool :=
  line.contains ':'

/-- Whether a character is a blank between the parts of a file. -/
def isSpace (c : Char) : Bool :=
  c == ' ' || c == '\t' || c == '\n' || c == '\r'

/-- The first section of a file. -/
def envelope? (file : Bytes) : Option Envelope := do
  let text ← Utf8.decode? file
  let (_, rest) ← Text.splitAtMark? "-----BEGIN ".toList text.toList
  let (label, rest) ← Text.splitAtMark? "-----".toList rest
  let (body, rest) ← Text.splitAtMark? "-----END ".toList (rest.dropWhile isSpace)
  let (closing, _) ← Text.splitAtMark? "-----".toList rest
  let (headers, data) := splitHeaders body
  if label.isEmpty || label != closing then none
  else if !((textLines headers).filter (!·.isEmpty)).all isHeader then none
  else
    let joined := (textLines data).flatMap (Text.dropBothWhile Text.isBlank)
    return { label := String.ofList label, content := ← Base64.decodeFilled? joined }

end GatewayProvisioning.Pem
