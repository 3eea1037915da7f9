import GatewayProvisioning.Decimal.Number
import GatewayProvisioning.NameMap

/-!
JSON values and their written forms. A record keeps its members in order, so that what is written is
what the value says; sorting them is an operation of its own.
-/

namespace GatewayProvisioning

/-- A JSON value. -/
inductive Json where
  | null
  | flag (b : Bool)
  | number (n : Decimal.Number)
  | text (s : String)
  | list (members : List Json)
  | record (members : List (String × Json))

namespace Json

/-- The JSON number of a natural number. -/
def nat (n : Nat) : Json :=
  .number (.natural n)

/-- The JSON number of an integer. -/
def int : Int → Json
  | .ofNat n => .number (.natural n)
  | .negSucc n => .number (.negative n)

/-- A list of texts. -/
def texts (ts : List String) : Json :=
  .list (ts.map .text)

/-- A text, or null for none. -/
def textOrNull : Option String → Json
  | none => .null
  | some s => .text s

/-! ## Written form -/

/-- How a character is written inside a quoted text. -/
def escaped (c : Char) : List Char :=
  if c == '"' then ['\\', '"']
  else if c == '\\' then ['\\', '\\']
  else if c == '\n' then ['\\', 'n']
  else if c == '\r' then ['\\', 'r']
  else if c == '\t' then ['\\', 't']
  else if c == Char.ofNat 0x08 then ['\\', 'b']
  else if c == Char.ofNat 0x0C then ['\\', 'f']
  else if c.toNat < 0x20 then
    ['\\', 'u', '0', '0', Text.hexDigit (c.toNat / 16), Text.hexDigit (c.toNat % 16)]
  else [c]

/-- A text between quotes. -/
def quote (s : String) : List Char :=
  '"' :: s.toList.flatMap escaped ++ ['"']

/-- Rows of characters with commas between them. -/
def joined : List (List Char) → List Char
  | [] => []
  | [row] => row
  | row :: rows => row ++ ',' :: joined rows

mutual

/-- The written form of a value, without blanks. -/
def written : Json → List Char
  | .null => "null".toList
  | .flag b => (if b then "true" else "false").toList
  | .number n => n.write.toList
  | .text s => quote s
  | .list members => '[' :: joined (writtenMembers members) ++ [']']
  | .record members => Char.ofNat 0x7B :: joined (writtenFields members) ++ [Char.ofNat 0x7D]

/-- The written forms of the members of a list. -/
def writtenMembers : List Json → List (List Char)
  | [] => []
  | v :: vs => written v :: writtenMembers vs

/-- The written forms of the members of a record. -/
def writtenFields : List (String × Json) → List (List Char)
  | [] => []
  | (k, v) :: rest => (quote k ++ ':' :: written v) :: writtenFields rest

end

/-- The written form of a value on one line, without blanks. -/
def compact (v : Json) : String :=
  String.ofList (written v)

/-- Rows on lines of their own, indented, between two brackets. -/
def block (opening closing : Char) (indent : Nat) (rows : List (List Char)) : List Char :=
  let line (row : List Char) := '\n' :: List.replicate (indent + 2) ' ' ++ row
  match rows with
  | [] => [opening, closing]
  | _ => opening :: joined (rows.map line) ++ '\n' :: List.replicate indent ' ' ++ [closing]

mutual

/-- The written form of a value on several lines, those inside it indented by two blanks more. -/
def indented (indent : Nat) : Json → List Char
  | .list members => block '[' ']' indent (indentedMembers (indent + 2) members)
  | .record members =>
    block (Char.ofNat 0x7B) (Char.ofNat 0x7D) indent (indentedFields (indent + 2) members)
  | .null => "null".toList
  | .flag b => (if b then "true" else "false").toList
  | .number n => n.write.toList
  | .text s => quote s

/-- The indented forms of the members of a list. -/
def indentedMembers (indent : Nat) : List Json → List (List Char)
  | [] => []
  | v :: vs => indented indent v :: indentedMembers indent vs

/-- The indented forms of the members of a record. -/
def indentedFields (indent : Nat) : List (String × Json) → List (List Char)
  | [] => []
  | (k, v) :: rest =>
    (quote k ++ ':' :: ' ' :: indented indent v) :: indentedFields indent rest

end

/-- The written form of a value on several lines. -/
def pretty (v : Json) : String :=
  String.ofList (indented 0 v)

/-! ## Order of members -/

mutual

/-- A value whose records, at every level, have each name once, in ascending order. -/
def sorted : Json → Json
  | .list members => .list (sortedMembers members)
  | .record members => .record (sortedFields [] members)
  | .null => .null
  | .flag b => .flag b
  | .number n => .number n
  | .text s => .text s

/-- The members of a list, each sorted. -/
def sortedMembers : List Json → List Json
  | [] => []
  | v :: vs => sorted v :: sortedMembers vs

/-- The members of a record put, sorted, into those that came before. -/
def sortedFields (before : List (String × Json)) : List (String × Json) → List (String × Json)
  | [] => before
  | (k, v) :: rest => sortedFields (NameMap.put k (sorted v) before) rest

end

/-! ## Parts -/

/-- The last member of a name in a record. -/
def member? (name : String) : Json → Option Json
  | .record members => (members.reverse.find? fun (k, _) => k == name).map (·.2)
  | _ => none

end Json

end GatewayProvisioning
