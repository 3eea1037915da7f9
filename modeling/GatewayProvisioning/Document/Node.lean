import GatewayProvisioning.Decimal.Number
import GatewayProvisioning.Text.Utf8

/-!
A document as it stands in a text. A node says what was found, in order, and where reading had to
stop; whether that is an error depends on what the reader of the node is after, for it may look only
at a part. Scalars keep their spelling as long as more than one meaning is open.
-/

namespace GatewayProvisioning.Document

/-- A part of a quoted text: a character, a number of sixteen bits given by an escape, or bytes that
belong to no character. -/
inductive Piece where
  | char (c : Char)
  | unit (n : Nat)
  | stray
  deriving DecidableEq, Repr

/-- What ends a quoted text other than its closing quote: an unknown escape, an escape without its
four hexadecimal digits, a control character, or the end of the document. -/
inductive QuoteFault where
  | escape
  | hex
  | control
  | cut
  deriving DecidableEq, Repr

/-- A quoted text. -/
structure Quotation where
  pieces : List Piece
  fault : Option QuoteFault := none
  deriving DecidableEq, Repr

/-- The quotation of a text. -/
def Quotation.ofText (s : String) : Quotation :=
  { pieces := s.toList.map .char }

/-- What stands where a value must stand and is none: something else, nothing, the beginning of a
word that goes on otherwise or not at all, something else or nothing in place of the colon before
the value, or the value that holds this place, so that there is no end to it. -/
inductive Gap where
  | noValue
  | cut
  | noWord
  | cutWord
  | noColon
  | cutBeforeColon
  | endless
  deriving DecidableEq, Repr

/-- How a row of members ends. Only `closed` is its proper end, and `sealed` the one of a list that
cannot stand for a record; `comma` is an end right after a
comma, `commaCut` a comma and nothing more, `noComma` something else than a comma after a member,
`cut` nothing after a member or at the start, and `stopped` a last member that holds the fault. -/
inductive Ending where
  | closed
  | sealed
  | comma
  | commaCut
  | noComma
  | cut
  | stopped
  deriving DecidableEq, Repr

/-- A value as it stands in a document. A record may end at a key that is not quoted. A `plain`
scalar is a text to those who want a text and has a meaning to the others. A `tagged` value has a
type of its own, which only matters to those who take values of any type. -/
inductive Node where
  | null
  | flag (b : Bool)
  | number (n : Decimal.Numeral)
  | text (q : Quotation)
  | plain (written : String) (meaning : Node)
  | tagged (v : Node)
  | list (members : List Node) (ending : Ending)
  | record (members : List (Node × Node)) (ending : Ending) (badKey : Option Node)
  | gap (g : Gap)

/-- A document: its value, and whether more follows it. -/
structure Whole where
  root : Node
  more : Bool

/-- The node of a text without escapes. -/
def Node.ofText (s : String) : Node :=
  .text (.ofText s)

end GatewayProvisioning.Document
