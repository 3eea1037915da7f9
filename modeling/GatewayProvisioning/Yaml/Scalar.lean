import GatewayProvisioning.Yaml.Mark

/-!
The texts of scalars: plain, quoted, and in blocks of lines. Line ends inside a plain or a quoted
scalar are folded: one of them is a space, and of several all but the first stay.
-/

namespace GatewayProvisioning.Yaml

/-- A scalar that has been read, and what follows it. -/
structure Scanned where
  text : List Char
  mark : Mark
  rest : List Char

/-! ## Folding -/

/-- Blanks and line ends that count only if more of the scalar follows them: the blanks before the
first line end, that line end, and the others, each row backwards. -/
structure Interval where
  blanks : List Char := []
  first : Option (List Char) := none
  others : List Char := []

namespace Interval

/-- Whether a line has ended. -/
def isBroken (i : Interval) : Bool :=
  i.first.isSome

/-- An interval with one more blank or line end. -/
def push (i : Interval) (c : Char) : Interval :=
  if isBreak c then
    match i.first with
    | none => { i with first := some [c] }
    | some _ => { i with others := c :: i.others }
  else
    match i.first with
    | none => { i with blanks := c :: i.blanks }
    | some _ => i

/-- What an interval stands for, backwards. -/
def folded (i : Interval) : List Char :=
  match i.first with
  | none => i.blanks
  | some first =>
    if first = ['\n'] then if i.others.isEmpty then [' '] else i.others
    else i.others ++ first

end Interval

/-! ## Plain scalars -/

/-- The brackets, and the comma between their members. -/
def isFlowMark (c : Char) : Bool :=
  c == ',' || c == '[' || c == ']' || c == '\x7b' || c == '\x7d'

/-- Reads a plain scalar, of which `text` is there, backwards. The answer tells whether a line ended
after it. -/
def plain (inFlow : Bool) (indent : Nat) (text : List Char) (gap : Option Interval) (m : Mark) :
    List Char → Option (Scanned × Bool)
  | [] => some (⟨text.reverse, m, []⟩, gap.any (·.isBroken))
  | c :: cs =>
    let stop : Option (Scanned × Bool) :=
      some (⟨text.reverse, m, c :: cs⟩, gap.any (·.isBroken))
    if isBlank c || isBreak c then
      let i := gap.getD {}
      if c == '\t' && i.isBroken && m.column < indent then none
      else plain inFlow indent text (some (i.push c)) (m.past c) cs
    else if gap.isSome && ((!inFlow && m.column < indent) || isDocumentMark m (c :: cs) || c == '#')
    then stop
    else if inFlow && c == ':' && cs.head?.any (fun d => isFlowMark d || d == '?') then none
    else if (c == ':' && endsWord cs) || (inFlow && isFlowMark c) then stop
    else
      let folded := (gap.map (·.folded)).getD []
      plain inFlow indent (c :: (folded ++ text)) none (m.past c) cs

/-! ## Quoted scalars -/

/-- The character of an escape of one letter. -/
def escape? : Char → Option Char
  | '0' => some (Char.ofNat 0x00)
  | 'a' => some (Char.ofNat 0x07)
  | 'b' => some (Char.ofNat 0x08)
  | 't' => some '\t'
  | '\t' => some '\t'
  | 'n' => some '\n'
  | 'v' => some (Char.ofNat 0x0B)
  | 'f' => some (Char.ofNat 0x0C)
  | 'r' => some '\r'
  | 'e' => some (Char.ofNat 0x1B)
  | ' ' => some ' '
  | '"' => some '"'
  | '/' => some '/'
  | '\\' => some '\\'
  | 'N' => some (Char.ofNat 0x85)
  | '_' => some (Char.ofNat 0xA0)
  | 'L' => some (Char.ofNat 0x2028)
  | 'P' => some (Char.ofNat 0x2029)
  | _ => none

/-- The number of digits of an escape by number. -/
def escapeWidth? : Char → Option Nat
  | 'x' => some 2
  | 'u' => some 4
  | 'U' => some 8
  | _ => none

/-- The character of a number, unless it is half of a pair or too large. -/
def charOfNumber? (n : Nat) : Option Char :=
  if n < 0xD800 || (0xDFFF < n && n ≤ 0x10FFFF) then some (Char.ofNat n) else none

/-- What a reader of a quoted scalar is in the middle of: text, an escape, or an escape by number
with some digits left. -/
inductive QuotedState where
  | text
  | escape
  | number (left value : Nat)

/-- Reads a quoted scalar after its opening quote; `text` is there, backwards. -/
def quoted (double : Bool) (text : List Char) (gap : Option Interval) (state : QuotedState)
    (m : Mark) : List Char → Option Scanned
  | [] => none
  | c :: cs =>
    match state with
    | .escape =>
      if isBreak c then quoted double text (some { first := some [] }) .text (m.past c) cs
      else
        match escape? c, escapeWidth? c with
        | some e, _ => quoted double (e :: text) none .text (m.past c) cs
        | none, some width => quoted double text none (.number width 0) (m.past c) cs
        | none, none => none
    | .number left value =>
      match Text.hexValue? c with
      | none => none
      | some d =>
        let value := 16 * value + d
        if left ≤ 1 then
          match charOfNumber? value with
          | some e => quoted double (e :: text) none .text (m.past c) cs
          | none => none
        else quoted double text none (.number (left - 1) value) (m.past c) cs
    | .text =>
      if isBlank c || isBreak c then
        quoted double text (some ((gap.getD {}).push c)) .text (m.past c) cs
      else if isDocumentMark m (c :: cs) then none
      else
        let text := (gap.map (·.folded)).getD [] ++ text
        if double && c == '\\' then quoted double text none .escape (m.past c) cs
        else if c == (if double then '"' else '\'') then
          match cs with
          | '\'' :: after =>
            if double then some ⟨text.reverse, m.past c, cs⟩
            else quoted double ('\'' :: text) none .text (m.forward 2) after
          | _ => some ⟨text.reverse, m.past c, cs⟩
        else quoted double (c :: text) none .text (m.past c) cs

/-! ## Blocks of lines -/

/-- What becomes of the line ends at the end of a block: none stays, one, or all. -/
inductive Chomping where
  | strip
  | clip
  | keep
  deriving DecidableEq, Repr

/-- The chomping that a sign asks for. -/
def Chomping.ofSign? : Char → Option Chomping
  | '-' => some .strip
  | '+' => some .keep
  | _ => none

/-- The first line of a block after its indicator: the chomping and the indentation, zero if it is to
be found out. -/
def blockHeader (cs : List Char) : Option (Chomping × Nat × List Char) :=
  let sign : List Char → Option Chomping × List Char
    | c :: cs =>
      match Chomping.ofSign? c with
      | some chomping => (some chomping, cs)
      | none => (none, c :: cs)
    | [] => (none, [])
  let digit : List Char → Option Nat × List Char
    | c :: cs => if Text.isDigit c then (some (Text.digitValue c), cs) else (none, c :: cs)
    | [] => (none, [])
  let (before, cs) := sign cs
  let (indent, cs) := digit cs
  let (after, cs) := if before.isNone && indent.isSome then sign cs else (none, cs)
  if indent = some 0 then none
  else some (((before.or after).getD .clip), indent.getD 0, cs)

/-- Passes over the lines of a block that hold nothing: their line ends, backwards, and the widest
column that was reached. -/
def blockGap (indent widest : Nat) (breaks : List Char) (m : Mark) :
    List Char → Option (List Char × Nat × Mark × List Char)
  | [] => some (breaks, max widest m.column, m, [])
  | c :: cs =>
    let outside := indent = 0 ∨ m.column < indent
    if c = ' ' ∧ outside then blockGap indent (max widest m.column) breaks (m.past c) cs
    else if c = '\t' ∧ outside then none
    else if isBreak c then blockGap indent (max widest m.column) (c :: breaks) (m.past c) cs
    else some (breaks, max widest m.column, m, c :: cs)

/-- The lines of a block: `text` is there, backwards, as are the last line end and those of the empty
lines after it. -/
def blockLines (literal : Bool) (indent : Nat) :
    Nat → (text last breaks : List Char) → (blankBefore : Bool) → Mark → List Char →
      Option (List Char × List Char × List Char × Mark × List Char)
  | 0, _, _, _, _, _, _ => none
  | _ + 1, text, last, breaks, _, m, [] => some (text, last, breaks, m, [])
  | fuel + 1, text, last, breaks, blankBefore, m, c :: cs =>
    if m.column ≠ indent then some (text, last, breaks, m, c :: cs)
    else do
      let blank := isBlank c
      let joint :=
        if !literal && last == ['\n'] && !blankBefore && !blank then
          if breaks.isEmpty then [' '] else []
        else last
      let line := (c :: cs).takeWhile (!isBreak ·)
      let after := (c :: cs).dropWhile (!isBreak ·)
      let text := line.reverse ++ (breaks ++ (joint ++ text))
      let m := m.forward line.length
      match after with
      | [] => return (text, [], [], m, [])
      | b :: rest =>
        let (breaks, _, m, rest) ← blockGap indent 0 [] (m.past b) rest
        blockLines literal indent fuel text [b] breaks blank m rest

/-- Reads a block of lines after its indicator; `parent` is the column of the collection that it
stands in. -/
def block (literal : Bool) (parent : Option Nat) (m : Mark) (cs : List Char) : Option Scanned := do
  let (chomping, increment, afterHeader) ← blockHeader cs
  let afterBlanks := afterHeader.dropWhile isBlank
  let rest := match afterBlanks with
    | '#' :: _ => afterBlanks.dropWhile (!isBreak ·)
    | _ => afterBlanks
  let m := m.forward (cs.length - rest.length)
  let (m, rest) ← match rest with
    | [] => some (m, [])
    | b :: rest => if isBreak b then some (m.past b, rest) else none
  let given := if increment = 0 then 0 else parent.getD 0 + increment
  let (breaks, widest, m, rest) ← blockGap given 0 [] m rest
  let indent :=
    if given = 0 then max widest (max 1 ((parent.map (· + 1)).getD 0)) else given
  let (text, last, breaks, m, rest) ←
    blockLines literal indent (rest.length + 1) [] [] breaks false m rest
  let tail := match chomping with
    | .strip => []
    | .clip => last
    | .keep => breaks ++ last
  return ⟨(tail ++ text).reverse, m, rest⟩

end GatewayProvisioning.Yaml
