import GatewayProvisioning.Document.Node
import GatewayProvisioning.Document.ReadError

/-!
The meaning of scalars: the text of a quotation, the number of a numeral, and what a reader that
wants something else finds in their place.
-/

namespace GatewayProvisioning.Document

/-- Whether a number of sixteen bits is the first half of a surrogate pair. -/
def isLeading (n : Nat) : Bool :=
  0xD800 ≤ n && n ≤ 0xDBFF

/-- Whether a number of sixteen bits is the second half of a surrogate pair. -/
def isTrailing (n : Nat) : Bool :=
  0xDC00 ≤ n && n ≤ 0xDFFF

/-- The character of a surrogate pair. -/
def pairChar (high low : Nat) : Char :=
  Char.ofNat ((high - 0xD800) * 0x400 + (low - 0xDC00) + 0x10000)

/-- The error of a fault inside a quoted text. -/
def QuoteFault.error : QuoteFault → ReadError
  | .escape => .badEscape
  | .hex => .badEscape
  | .control => .controlCharacter
  | .cut => .textCut

/-- The error of a leading surrogate that no piece follows. -/
def afterLeading : Option QuoteFault → ReadError
  | some .hex => .badEscape
  | some .cut => .textCut
  | _ => .surrogateCut

/-- The characters of pieces, with `none` for stray bytes; two halves of a surrogate pair are one
character, and no half stands alone. -/
def joinPieces (fault : Option QuoteFault) : List Piece → Except ReadError (List (Option Char))
  | [] =>
    match fault with
    | none => .ok []
    | some f => .error f.error
  | .char c :: rest => do return some c :: (← joinPieces fault rest)
  | .stray :: rest => do return none :: (← joinPieces fault rest)
  | .unit n :: rest =>
    if isTrailing n then .error .loneSurrogate
    else if isLeading n then
      match rest with
      | .unit m :: rest =>
        if isTrailing m then do return some (pairChar n m) :: (← joinPieces fault rest)
        else .error .loneSurrogate
      | [] => .error (afterLeading fault)
      | _ => .error .surrogateCut
    else do return some (Char.ofNat n) :: (← joinPieces fault rest)

/-- The text of a quotation. -/
def Quotation.read (q : Quotation) : Except ReadError String := do
  match (← joinPieces q.fault q.pieces).mapM id with
  | some cs => return String.ofList cs
  | none => throw .badCodePoint

/-- The number of a numeral. -/
def readNumber (n : Decimal.Numeral) : Except ReadError Decimal.Number :=
  match n.fault with
  | some .malformed => .error .badNumber
  | some .cut => .error .valueCut
  | none =>
    match n.number? with
    | some x => .ok x
    | none => .error .numberTooLarge

/-- The error of a gap. -/
def Gap.error : Gap → ReadError
  | .noValue => .valueExpected
  | .cut => .valueCut
  | .noWord => .wordExpected
  | .cutWord => .valueCut
  | .noColon => .colonExpected
  | .cutBeforeColon => .recordCut
  | .endless => .tooDeep

/-- What a reader finds who wants something else. Scalars are read to their end; of a list or record
only the beginning is looked at. -/
def Node.found : Node → Except ReadError Found
  | .null => .ok .null
  | .flag b => .ok (.flag b)
  | .number n => do return .number (← readNumber n)
  | .text q => do return .text (← q.read)
  | .plain _ meaning => meaning.found
  | .tagged v => v.found
  | .list .. => .ok .list
  | .record .. => .ok .record
  | .gap g => .error g.error

/-- The error of a reader who wants something else. -/
def Node.mismatch (v : Node) (expected : String) : ReadError :=
  match v.found with
  | .ok found => .wrongType found expected
  | .error e => e

/-- The text of a node. -/
def Node.readText (expected : String) : Node → Except ReadError String
  | .text q => q.read
  | .plain written _ => .ok written
  | .tagged v => v.readText expected
  | v => .error (v.mismatch expected)

/-- A value without its tag. -/
def Node.untagged : Node → Node
  | .tagged v => v.untagged
  | v => v

/-- The error, if any, of a list that has been read to its last member. -/
def Ending.checkList : Ending → Except ReadError Unit
  | .closed => .ok ()
  | .sealed => .ok ()
  | .comma => .error .commaAtEnd
  | .commaCut => .error .valueCut
  | .noComma => .error .listEndExpected
  | .cut => .error .listCut
  | .stopped => .error .valueExpected

/-- The error, if any, of a record that has been read to its last member. -/
def checkRecord (badKey : Option Node) : Ending → Except ReadError Unit
  | .closed => .ok ()
  | .sealed => .ok ()
  | .comma => .error .commaAtEnd
  | .commaCut => .error .valueCut
  | .noComma => .error .recordEndExpected
  | .cut => .error .recordCut
  | .stopped => .error (if badKey.isSome then .keyNotText else .valueExpected)

/-! ## Passing over a value -/

/-- The error, if any, of passing over a list that has no further member. -/
def Ending.skipList : Ending → Except ReadError Unit
  | .closed => .ok ()
  | .sealed => .ok ()
  | .comma => .error .valueExpected
  | .commaCut => .error .valueCut
  | .noComma => .error .listEndExpected
  | .cut => .error .listCut
  | .stopped => .error .valueExpected

/-- The error, if any, of passing over a record that has no further member. -/
def Ending.skipRecord : Ending → Except ReadError Unit
  | .closed => .ok ()
  | .sealed => .ok ()
  | .comma => .error .keyNotText
  | .commaCut => .error .recordCut
  | .noComma => .error .recordEndExpected
  | .cut => .error .recordCut
  | .stopped => .error .keyNotText

mutual

/-- Passes over a value that nobody wants. Only its form counts: texts and numbers are not read. -/
def Node.skip : Node → Except ReadError Unit
  | .null => .ok ()
  | .flag _ => .ok ()
  | .number n => if n.fault.isSome then .error .badNumber else .ok ()
  | .text q =>
    match q.fault with
    | some f => .error f.error
    | none => .ok ()
  | .plain .. => .ok ()
  | .tagged v => v.skip
  | .list members ending => do
    skipMembers members
    ending.skipList
  | .record members ending _ => do
    skipFields members
    ending.skipRecord
  | .gap .endless => .ok ()
  | .gap g => .error g.error

/-- Passes over the members of a list. -/
def skipMembers : List Node → Except ReadError Unit
  | [] => .ok ()
  | v :: vs => do
    v.skip
    skipMembers vs

/-- Passes over the members of a record. -/
def skipFields : List (Node × Node) → Except ReadError Unit
  | [] => .ok ()
  | (k, v) :: rest => do
    k.skip
    v.skip
    skipFields rest

end

end GatewayProvisioning.Document
