import GatewayProvisioning.Text.Basic

/-!
Places in a YAML text, and the kinds of characters that its grammar tells apart. Texts are read with
all line ends written alike; only the separators of lines and of paragraphs stay what they are.
-/

namespace GatewayProvisioning.Yaml

/-- A place in a text: its line, its column in that line, and the number of characters before it. -/
structure Mark where
  line : Nat := 0
  column : Nat := 0
  index : Nat := 0
  deriving DecidableEq, Repr

/-- The separators of lines and of paragraphs. -/
def isSeparator (c : Char) : Bool :=
  c.toNat == 0x2028 || c.toNat == 0x2029

/-- The characters that end a line. -/
def isBreak (c : Char) : Bool :=
  c == '\n' || isSeparator c

/-- The blanks within a line. -/
def isBlank (c : Char) : Bool :=
  c == ' ' || c == '\t'

/-- Whether a word is over: nothing follows, or a blank or the end of the line does. -/
def endsWord : List Char → Bool
  | [] => true
  | c :: _ => isBlank c || isBreak c

/-- The characters of names. -/
def isNameChar (c : Char) : Bool :=
  c.isAlphanum || c == '_' || c == '-'

/-- The place after a character. -/
def Mark.past (m : Mark) (c : Char) : Mark :=
  if isBreak c then ⟨m.line + 1, 0, m.index + 1⟩ else ⟨m.line, m.column + 1, m.index + 1⟩

/-- The place after a row of characters of one line. -/
def Mark.forward (m : Mark) (n : Nat) : Mark :=
  ⟨m.line, m.column + n, m.index + n⟩

/-- The characters that a text may hold. -/
def isAllowed (c : Char) : Bool :=
  let n := c.toNat
  n == 0x09 || n == 0x0A || n == 0x0D || (0x20 ≤ n && n ≤ 0x7E) || n == 0x85 ||
    (0xA0 ≤ n && n ≤ 0xFFFD) || 0x10000 ≤ n

/-- A text with all line ends written alike. -/
def unifyBreaks : List Char → List Char
  | '\r' :: '\n' :: rest => '\n' :: unifyBreaks rest
  | c :: rest => (if c == '\r' || c.toNat == 0x85 then '\n' else c) :: unifyBreaks rest
  | [] => []

/-- Whether a row of characters stands here as a line's first word. -/
def startsLine (word : List Char) (m : Mark) (cs : List Char) : Bool :=
  m.column == 0 && word.isPrefixOf cs && endsWord (cs.drop word.length)

/-- Whether a document begins or ends here. -/
def isDocumentMark (m : Mark) (cs : List Char) : Bool :=
  startsLine "---".toList m cs || startsLine "...".toList m cs

/-- Passes over blanks, comments and line ends. A tab is a blank where no key may stand, and within
brackets; after a line end outside brackets a key may stand. -/
def passGap (inFlow keyAllowed comment : Bool) (m : Mark) : List Char → List Char × Mark × Bool
  | [] => ([], m, keyAllowed)
  | c :: cs =>
    if isBreak c then passGap inFlow (keyAllowed || !inFlow) false (m.past c) cs
    else if comment || c == ' ' || (c == '\t' && (inFlow || !keyAllowed)) then
      passGap inFlow keyAllowed comment (m.past c) cs
    else if c == '#' then passGap inFlow keyAllowed true (m.past c) cs
    else (c :: cs, m, keyAllowed)

end GatewayProvisioning.Yaml
