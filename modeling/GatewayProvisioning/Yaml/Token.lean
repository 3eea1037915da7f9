import GatewayProvisioning.Yaml.Scalar

/-!
The tokens of a YAML text. Where a value may turn out to be a key, a slot is left before it; the
colon that follows the value settles what stands in the slot. Collections without brackets begin and
end where the indentation changes.
-/

namespace GatewayProvisioning.Yaml

/-- A tag: a handle and the rest of the name. -/
structure Tag where
  handle : String
  name : String
  deriving DecidableEq, Repr

/-- The tokens of a text. -/
inductive Token where
  | slot (number : Nat)
  | version (major minor : Nat)
  | handle (name : String)
  | documentStart
  | documentEnd
  | sequence
  | mapping
  | blockEnd
  | openSequence
  | closeSequence
  | openMapping
  | closeMapping
  | entry
  | comma
  | key
  | value
  | alias (name : String)
  | anchor (name : String)
  | tag (tag : Tag)
  | scalar (text : String) (isPlain : Bool)
  deriving DecidableEq, Repr

/-- A value that a colon would make a key, with its slot. A required one stands where only a key may
stand. -/
structure Candidate where
  slot : Nat
  required : Bool
  mark : Mark

/-- The state of reading tokens. The column of the innermost collection is -1 outside of all; of the
candidates the first belongs to the innermost brackets and the last to the text outside. A settled
slot holds a key, and where the flag is set a mapping begins before it. -/
structure Scan where
  rest : List Char
  mark : Mark := {}
  indent : Int := -1
  outer : List Int := []
  candidates : List (Option Candidate) := [none]
  keyAllowed : Bool := true
  tokens : List Token := []
  slots : Nat := 0
  settled : List (Nat × Bool) := []

namespace Scan

/-- Whether the text stands within brackets. -/
def inFlow (s : Scan) : Bool :=
  1 < s.candidates.length

/-- Adds a token. -/
def push (s : Scan) (t : Token) : Scan :=
  { s with tokens := t :: s.tokens }

/-- Passes over characters of one line. -/
def skip (s : Scan) (n : Nat) : Scan :=
  { s with rest := s.rest.drop n, mark := s.mark.forward n }

/-- Ends the collections that stand further to the right than a column. -/
def closeFrom (column : Int) (indent : Int) (tokens : List Token) :
    List Int → Int × List Int × List Token
  | [] => (indent, [], tokens)
  | next :: outer =>
    if column < indent then closeFrom column next (.blockEnd :: tokens) outer
    else (indent, next :: outer, tokens)

/-- Ends the collections that stand further to the right than a column, outside of brackets. -/
def unroll (s : Scan) (column : Int) : Scan :=
  if s.inFlow then s
  else
    let (indent, outer, tokens) := closeFrom column s.indent s.tokens s.outer
    { s with indent, outer, tokens }

/-- Whether a collection begins at a column. -/
def opensAt (s : Scan) (column : Nat) : Bool :=
  !s.inFlow && s.indent < column

/-- Begins a collection at a column. -/
def enter (s : Scan) (column : Nat) : Scan :=
  { s with indent := column, outer := s.indent :: s.outer }

/-- Begins a collection at the present column, unless one of that column is open. -/
def roll (s : Scan) (opening : Token) : Scan :=
  if s.opensAt s.mark.column then (s.enter s.mark.column).push opening else s

/-- Gives up the candidate of the innermost brackets. A required one must not be given up. -/
def giveUp (s : Scan) : Option Scan :=
  match s.candidates with
  | some c :: outer => if c.required then none else some { s with candidates := none :: outer }
  | _ => some s

/-- Makes the value that begins here a candidate, if a key may stand here. -/
def propose (s : Scan) : Option Scan :=
  if s.keyAllowed then do
    let s ← s.giveUp
    let c : Candidate :=
      { slot := s.slots, required := !s.inFlow && s.indent == s.mark.column, mark := s.mark }
    return { s.push (.slot s.slots) with
      slots := s.slots + 1, candidates := some c :: s.candidates.tail }
  else some s

/-- The greatest length of a key. -/
def keyLimit : Nat := 1024

/-- Gives up the candidates that cannot become keys any more: a key ends on its line. -/
def dropStale (s : Scan) : Option Scan := do
  let candidates ← s.candidates.mapM fun candidate =>
    match candidate with
    | none => some none
    | some c =>
      if c.mark.line < s.mark.line || c.mark.index + keyLimit < s.mark.index then
        if c.required then none else some none
      else some (some c)
  return { s with candidates }

/-- The state after a scalar has been read. -/
def after (s : Scan) (r : Scanned) (isPlain : Bool) : Scan :=
  { s.push (.scalar (String.ofList r.text) isPlain) with rest := r.rest, mark := r.mark }

/-! ## Tokens of one character -/

/-- Reads an opening bracket. -/
def openFlow (s : Scan) (t : Token) : Option Scan := do
  let s ← s.propose
  return ({ s with candidates := none :: s.candidates, keyAllowed := true }.skip 1).push t

/-- Reads a closing bracket. -/
def closeFlow (s : Scan) (t : Token) : Option Scan := do
  let s ← s.giveUp
  let candidates := if s.inFlow then s.candidates.tail else s.candidates
  return ({ s with candidates, keyAllowed := false }.skip 1).push t

/-- Reads a comma between brackets. -/
def comma (s : Scan) : Option Scan := do
  let s ← s.giveUp
  return ({ s with keyAllowed := true }.skip 1).push .comma

/-- Reads the dash before a member of a list. -/
def dash (s : Scan) : Option Scan := do
  if !s.inFlow && !s.keyAllowed then none
  else
    let s ← (s.roll .sequence).giveUp
    return ({ s with keyAllowed := true }.skip 1).push .entry

/-- Reads the question mark before a key. -/
def question (s : Scan) : Option Scan := do
  if !s.inFlow && !s.keyAllowed then none
  else
    let s ← (s.roll .mapping).giveUp
    return ({ s with keyAllowed := !s.inFlow }.skip 1).push .key

/-- Reads the colon before a value. -/
def colon (s : Scan) : Option Scan :=
  match s.candidates with
  | some c :: outer =>
    let opens := s.opensAt c.mark.column
    let s := if opens then s.enter c.mark.column else s
    let s := { s with
      settled := (c.slot, opens) :: s.settled, candidates := none :: outer, keyAllowed := false }
    some ((s.skip 1).push .value)
  | _ =>
    if !s.inFlow && !s.keyAllowed then none
    else
      let s := s.roll .mapping
      some (({ s with keyAllowed := !s.inFlow }.skip 1).push .value)

/-! ## Tokens with a name -/

/-- Reads an alias or an anchor. -/
def named (s : Scan) (make : String → Token) : Option Scan := do
  let s ← s.propose
  let name := s.rest.tail.takeWhile isNameChar
  let after := s.rest.tail.dropWhile isNameChar
  let ends := endsWord after ||
    after.head?.any fun c => "?:,]\x7d%@`".toList.contains c
  if name.isEmpty || !ends then none
  else
    return ({ s with keyAllowed := false }.skip (name.length + 1)).push (make (String.ofList name))

/-- The characters of the name of a tag. -/
def isTagChar (c : Char) : Bool :=
  isNameChar c || ";/?:@&=+$.%!~*'()".toList.contains c

/-- Reads a tag. -/
def tag (s : Scan) : Option Scan := do
  let s ← s.propose
  let (tag, length) ← match s.rest.drop 1 with
    | '<' :: cs =>
      let name := cs.takeWhile fun c => isTagChar c || c == ',' || c == '[' || c == ']'
      if name.isEmpty || cs[name.length]? != some '>' then none
      else some (Tag.mk "" (String.ofList name), name.length + 3)
    | cs =>
      let first := cs.takeWhile isNameChar
      match cs.drop first.length with
      | '!' :: others =>
        let name := others.takeWhile isTagChar
        if name.isEmpty then none
        else some (Tag.mk ("!" ++ String.ofList first ++ "!") (String.ofList name),
          first.length + name.length + 2)
      | _ =>
        let name := cs.takeWhile isTagChar
        some (Tag.mk "!" (String.ofList name), name.length + 1)
  let after := s.rest.drop length
  if endsWord after || (s.inFlow && after.head? == some ',') then
    return ({ s with keyAllowed := false }.skip length).push (.tag tag)
  else none

/-- Reads a directive. -/
def directive (s : Scan) : Option Scan := do
  let s ← (s.unroll (-1)).giveUp
  let line := s.rest.takeWhile (!isBreak ·)
  let word := line.tail.takeWhile isNameChar
  let afterWord := line.tail.drop word.length
  if !endsWord afterWord then none
  else
    let (t, after) ← match String.ofList word with
      | "YAML" =>
        let digits := afterWord.dropWhile isBlank
        let major := digits.takeWhile Text.isDigit
        match digits.drop major.length with
        | '.' :: others =>
          let minor := others.takeWhile Text.isDigit
          if major.isEmpty || minor.isEmpty || 9 < major.length || 9 < minor.length then none
          else some (Token.version (Text.decimalValue major) (Text.decimalValue minor),
            others.drop minor.length)
        | _ => none
      | "TAG" =>
        let others := afterWord.dropWhile isBlank
        let name := others.takeWhile fun c => isNameChar c || c == '!'
        let value := (others.drop name.length).dropWhile isBlank
        let uri := value.takeWhile fun c => isTagChar c || c == ',' || c == '[' || c == ']'
        if name.head? != some '!' || name.getLast? != some '!' || uri.isEmpty ||
            !(others.drop name.length).head?.any isBlank then none
        else some (Token.handle (String.ofList name), value.drop uri.length)
      | _ => none
    let blanks := after.takeWhile isBlank
    let last := after.drop blanks.length
    if !last.isEmpty && last.head? != some '#' then none
    else return ({ s with keyAllowed := false }.skip line.length).push t

/-- Reads the mark between documents. -/
def documentMark (s : Scan) (t : Token) : Option Scan := do
  let s ← (s.unroll (-1)).giveUp
  return ({ s with keyAllowed := false }.skip 3).push t

/-! ## Scalars -/

/-- Reads a block of lines. -/
def blockScalar (s : Scan) (literal : Bool) : Option Scan := do
  let s ← s.giveUp
  let parent := if s.indent < 0 then none else some s.indent.toNat
  let r ← block literal parent (s.mark.forward 1) s.rest.tail
  return { s with keyAllowed := true }.after r false

/-- Reads a quoted scalar. -/
def quotedScalar (s : Scan) (double : Bool) : Option Scan := do
  let s ← s.propose
  let r ← quoted double [] none .text (s.mark.forward 1) s.rest.tail
  return { s with keyAllowed := false }.after r false

/-- Reads a plain scalar. -/
def plainScalar (s : Scan) : Option Scan := do
  let s ← s.propose
  let (r, broken) ← plain s.inFlow (s.indent + 1).toNat [] none s.mark s.rest
  return { s with keyAllowed := broken }.after r true

/-- Whether a plain scalar begins here. -/
def startsPlain (s : Scan) : Bool :=
  match s.rest with
  | [] => false
  | c :: cs =>
    !(isBlank c || isBreak c || "-?:,[]\x7b\x7d#&*!|>'\"%@`".toList.contains c) ||
      (c == '-' && !cs.head?.any isBlank) ||
      (!s.inFlow && (c == '?' || c == ':') && !endsWord cs)

/-! ## The text -/

/-- Reads the token that stands here, which is not the end of the text. -/
def next (s : Scan) (c : Char) (cs : List Char) : Option Scan :=
  if s.mark.column = 0 ∧ c = '%' then s.directive
  else if startsLine "---".toList s.mark s.rest then s.documentMark .documentStart
  else if startsLine "...".toList s.mark s.rest then s.documentMark .documentEnd
  else if c = '[' then s.openFlow .openSequence
  else if c = '\x7b' then s.openFlow .openMapping
  else if c = ']' then s.closeFlow .closeSequence
  else if c = '\x7d' then s.closeFlow .closeMapping
  else if c = ',' then s.comma
  else if c = '-' ∧ endsWord cs then s.dash
  else if c = '?' ∧ (s.inFlow ∨ endsWord cs) then s.question
  else if c = ':' ∧ (s.inFlow ∨ endsWord cs) then s.colon
  else if c = '*' then s.named .alias
  else if c = '&' then s.named .anchor
  else if c = '!' then s.tag
  else if c = '|' ∧ !s.inFlow then s.blockScalar true
  else if c = '>' ∧ !s.inFlow then s.blockScalar false
  else if c = '\'' then s.quotedScalar false
  else if c = '"' then s.quotedScalar true
  else if s.startsPlain then s.plainScalar
  else none

/-- Reads all tokens. Each step takes up at least one character. -/
def run : Nat → Scan → Option Scan
  | 0, _ => none
  | fuel + 1, s => do
    let (rest, mark, keyAllowed) := passGap s.inFlow s.keyAllowed false s.mark s.rest
    let s ← { s with rest, mark, keyAllowed }.dropStale
    let s := s.unroll s.mark.column
    match s.rest with
    | [] => (s.unroll (-1)).giveUp
    | c :: cs =>
      let s ← s.next c cs
      run fuel s

end Scan

/-- The tokens that a token stands for, once the slots are settled. -/
def Token.settle (settled : List (Nat × Bool)) : Token → List Token
  | .slot n =>
    match settled.lookup n with
    | none => []
    | some opens => if opens then [.mapping, .key] else [.key]
  | t => [t]

/-- The tokens of a text, if it keeps the rules. -/
def tokens? (cs : List Char) : Option (List Token) := do
  if !cs.all isAllowed then none
  else
    let cs := match cs with
      | c :: rest => if c.toNat = 0xFEFF then rest else c :: rest
      | [] => []
    let start : Scan := { rest := unifyBreaks cs }
    let s ← start.run (start.rest.length + 1)
    return s.tokens.reverse.flatMap (·.settle s.settled)

end GatewayProvisioning.Yaml
