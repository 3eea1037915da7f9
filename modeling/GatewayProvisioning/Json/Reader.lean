import GatewayProvisioning.Document.Node

/-!
JSON text as a document. Every text has a document: where the text breaks a rule the document says
so at that place, and reading stops there.
-/

namespace GatewayProvisioning.Json

open GatewayProvisioning.Document

/-- The characters of a text in UTF-8, with `none` for bytes that belong to no character. -/
abbrev Glyphs := List (Option Char)

/-- Whether a glyph is a blank between the parts of a JSON text. -/
def isSpace : Option Char → Bool
  | some c => c == ' ' || c == '\n' || c == '\t' || c == '\r'
  | none => false

/-- A text without the blanks it begins with. -/
def skipSpace (gs : Glyphs) : Glyphs :=
  gs.dropWhile isSpace

/-! ## Quoted texts -/

/-- The least number of bytes that glyphs stand for. -/
def byteCount (gs : Glyphs) : Nat :=
  gs.foldl (fun n g => n + (g.map Char.utf8Size).getD 1) 0

/-- The value of a hexadecimal digit among the glyphs. -/
def hexGlyph? : Option Char → Option Nat
  | some c => Text.hexValue? c
  | none => none

/-- The number that four hexadecimal digits write. -/
def unit? (a b c d : Option Char) : Option Nat := do
  return (((← hexGlyph? a) * 16 + (← hexGlyph? b)) * 16 + (← hexGlyph? c)) * 16 + (← hexGlyph? d)

/-- The character of an escape of two characters. -/
def shortEscape? : Char → Option Char
  | '"' => some '"'
  | '\\' => some '\\'
  | '/' => some '/'
  | 'b' => some (Char.ofNat 0x08)
  | 'f' => some (Char.ofNat 0x0C)
  | 'n' => some '\n'
  | 'r' => some '\r'
  | 't' => some '\t'
  | _ => none

/-- Puts a piece before a quotation that has been read. -/
def prepend (p : Piece) (r : Quotation × Glyphs) : Quotation × Glyphs :=
  ({ r.1 with pieces := p :: r.1.pieces }, r.2)

/-- Reads a quoted text after its opening quote. -/
def readQuotation : Glyphs → Quotation × Glyphs
  | [] => (⟨[], some .cut⟩, [])
  | none :: rest => prepend .stray (readQuotation rest)
  | some '"' :: rest => (⟨[], none⟩, rest)
  | some '\\' :: some 'u' :: a :: b :: c :: d :: rest =>
    match unit? a b c d with
    | some n => prepend (.unit n) (readQuotation rest)
    | none => (⟨[], some .hex⟩, rest)
  | some '\\' :: some 'u' :: rest => (⟨[], some (if 4 ≤ byteCount rest then .hex else .cut)⟩, [])
  | some '\\' :: some c :: rest =>
    match shortEscape? c with
    | some e => prepend (.char e) (readQuotation rest)
    | none => (⟨[], some .escape⟩, rest)
  | some '\\' :: none :: rest => (⟨[], some .escape⟩, rest)
  | some '\\' :: [] => (⟨[], some .cut⟩, [])
  | some c :: rest =>
    if c.toNat < 0x20 then (⟨[], some .control⟩, rest)
    else prepend (.char c) (readQuotation rest)

/-! ## Numbers and words -/

/-- The digits that a text begins with, and what follows them. -/
def takeDigits : Glyphs → List Char × Glyphs
  | some c :: rest =>
    if Text.isDigit c then
      let (ds, after) := takeDigits rest
      (c :: ds, after)
    else ([], some c :: rest)
  | gs => ([], gs)

/-- What is wrong where a digit must stand and none does. -/
def digitFault : Glyphs → Decimal.NumeralFault
  | [] => .cut
  | _ :: _ => .malformed

/-- Reads the exponent of a numeral, if there is one. -/
def readExponent (n : Decimal.Numeral) (gs : Glyphs) : Decimal.Numeral × Glyphs :=
  match gs with
  | some e :: rest =>
    if e == 'e' || e == 'E' then
      let (minus, rest) := match rest with
        | some '-' :: rest => (true, rest)
        | some '+' :: rest => (false, rest)
        | rest => (false, rest)
      match takeDigits rest with
      | ([], after) => ({ n with fault := some (digitFault after) }, after)
      | (ds, after) => ({ n with exponent := some (minus, ds) }, after)
    else (n, gs)
  | _ => (n, gs)

/-- Reads the fraction and the exponent of a numeral, if there are any. -/
def readFraction (n : Decimal.Numeral) (gs : Glyphs) : Decimal.Numeral × Glyphs :=
  match gs with
  | some '.' :: rest =>
    match takeDigits rest with
    | ([], after) => ({ n with fault := some (digitFault after) }, after)
    | (ds, after) => readExponent { n with fraction := some ds } after
  | _ => readExponent n gs

/-- Reads a numeral after its sign. -/
def readNumeral (negative : Bool) (gs : Glyphs) : Decimal.Numeral × Glyphs :=
  match takeDigits gs with
  | ([], after) => ({ negative, whole := [], fault := some (digitFault after) }, after)
  | ('0' :: d :: ds, after) => ({ negative, whole := '0' :: d :: ds, fault := some .malformed }, after)
  | (ds, after) => readFraction { negative, whole := ds } after

/-- Reads the rest of a word that means `node`. -/
def readWord (node : Node) : List Char → Glyphs → Node × Glyphs
  | [], gs => (node, gs)
  | _ :: _, [] => (.gap .cutWord, [])
  | c :: word, g :: gs => if g = some c then readWord node word gs else (.gap .noWord, gs)

/-! ## Values -/

/-- Whether a value is a row whose last member holds a fault, or a fault itself, so that nothing
after it is read. -/
def isBroken : Node → Bool
  | .gap _ => true
  | .text q => q.fault.isSome
  | .number n => n.fault.isSome
  | .list _ ending => ending != .closed
  | .record _ ending _ => ending != .closed
  | _ => false

mutual

/-- Reads a value. -/
def readValue : Nat → Glyphs → Node × Glyphs
  | 0, gs => (.gap .cut, gs)
  | fuel + 1, gs =>
    match skipSpace gs with
    | [] => (.gap .cut, [])
    | some '"' :: rest =>
      let (q, after) := readQuotation rest
      (.text q, after)
    | some '[' :: rest => readFirstMember fuel rest
    | some '\x7b' :: rest => readFirstField fuel rest
    | some 'n' :: rest => readWord .null "ull".toList rest
    | some 't' :: rest => readWord (.flag true) "rue".toList rest
    | some 'f' :: rest => readWord (.flag false) "alse".toList rest
    | some '-' :: rest =>
      let (n, after) := readNumeral true rest
      (.number n, after)
    | some c :: rest =>
      if Text.isDigit c then
        let (n, after) := readNumeral false (some c :: rest)
        (.number n, after)
      else (.gap .noValue, some c :: rest)
    | none :: rest => (.gap .noValue, none :: rest)

/-- Reads a list after its opening bracket. -/
def readFirstMember : Nat → Glyphs → Node × Glyphs
  | 0, gs => (.gap .cut, gs)
  | fuel + 1, gs =>
    match skipSpace gs with
    | [] => (.list [] .cut, [])
    | some ']' :: rest => (.list [] .closed, rest)
    | gs =>
      let (members, ending, after) := readMembers fuel gs
      (.list members ending, after)

/-- Reads a member of a list and those that follow it. -/
def readMembers : Nat → Glyphs → List Node × Ending × Glyphs
  | 0, gs => ([], .cut, gs)
  | fuel + 1, gs =>
    let (v, after) := readValue fuel gs
    if isBroken v then ([v], .stopped, after)
    else
      match skipSpace after with
      | [] => ([v], .cut, [])
      | some ']' :: rest => ([v], .closed, rest)
      | some ',' :: rest =>
        match skipSpace rest with
        | [] => ([v], .commaCut, [])
        | some ']' :: rest => ([v], .comma, rest)
        | rest =>
          let (vs, ending, after) := readMembers fuel rest
          (v :: vs, ending, after)
      | rest => ([v], .noComma, rest)

/-- Reads a record after its opening brace. -/
def readFirstField : Nat → Glyphs → Node × Glyphs
  | 0, gs => (.gap .cut, gs)
  | fuel + 1, gs =>
    match skipSpace gs with
    | [] => (.record [] .cut none, [])
    | some '\x7d' :: rest => (.record [] .closed none, rest)
    | gs =>
      let (members, ending, badKey, after) := readFields fuel gs
      (.record members ending badKey, after)

/-- Reads a member of a record and those that follow it. -/
def readFields : Nat → Glyphs → List (Node × Node) × Ending × Option Node × Glyphs
  | 0, gs => ([], .cut, none, gs)
  | fuel + 1, some '"' :: gs =>
    let (q, afterKey) := readQuotation gs
    let key := Node.text q
    if q.fault.isSome then ([(key, .gap .cut)], .stopped, none, afterKey)
    else
      match skipSpace afterKey with
      | [] => ([(key, .gap .cutBeforeColon)], .stopped, none, [])
      | some ':' :: rest =>
        let (v, after) := readValue fuel rest
        if isBroken v then ([(key, v)], .stopped, none, after)
        else
          match skipSpace after with
          | [] => ([(key, v)], .cut, none, [])
          | some '\x7d' :: rest => ([(key, v)], .closed, none, rest)
          | some ',' :: rest =>
            match skipSpace rest with
            | [] => ([(key, v)], .commaCut, none, [])
            | some '\x7d' :: rest => ([(key, v)], .comma, none, rest)
            | rest =>
              let (vs, ending, badKey, after) := readFields fuel rest
              ((key, v) :: vs, ending, badKey, after)
          | rest => ([(key, v)], .noComma, none, rest)
      | rest => ([(key, .gap .noColon)], .stopped, none, rest)
  | fuel + 1, gs =>
    let (v, after) := readValue fuel gs
    ([], .stopped, some v, after)

end

/-- The document of glyphs. -/
def documentOfGlyphs (gs : Glyphs) : Whole :=
  let (root, rest) := readValue (3 * gs.length + 3) gs
  { root, more := !(skipSpace rest).isEmpty }

/-- The document of a text. -/
def document (s : String) : Whole :=
  documentOfGlyphs (s.toList.map some)

/-- The document of bytes. -/
def documentOfBytes (bytes : Bytes) : Whole :=
  documentOfGlyphs (Utf8.glyphs bytes)

end GatewayProvisioning.Json
