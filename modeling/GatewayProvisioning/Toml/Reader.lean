import GatewayProvisioning.Toml.Scalar

/-!
TOML text as a document. A text that breaks a rule anywhere has no document.
-/

namespace GatewayProvisioning.Toml

open Document

/-! ## Blanks, comments and line ends -/

/-- The blanks within a line. -/
def isBlank (c : Char) : Bool :=
  c == ' ' || c == '\t'

/-- The characters that may stand in comments and quoted texts of one line. -/
def isPrintable (c : Char) : Bool :=
  c == '\t' || (0x20 ≤ c.toNat && c.toNat != 0x7F)

/-- What follows the blanks. -/
def passBlanks (cs : List Char) : List Char :=
  cs.dropWhile isBlank

/-- What follows a comment, if there is one. -/
def passComment (cs : List Char) : List Char :=
  match cs with
  | '#' :: rest => rest.dropWhile isPrintable
  | cs => cs

/-- What follows the end of a line; there must be one, or the end of the text. -/
def passLineEnd : List Char → Option (List Char)
  | [] => some []
  | '\n' :: rest => some rest
  | '\r' :: '\n' :: rest => some rest
  | _ => none

/-- What follows blanks, comments and line ends. -/
def passLines : Nat → List Char → List Char
  | 0, cs => cs
  | fuel + 1, cs =>
    let rest := passComment (passBlanks cs)
    match rest with
    | '\n' :: after => passLines fuel after
    | '\r' :: '\n' :: after => passLines fuel after
    | rest => rest

/-- What follows blanks, comments and line ends. -/
def passAll (cs : List Char) : List Char :=
  passLines (cs.length + 1) cs

/-! ## Quoted texts -/

/-- The character of an escape of one letter. -/
def escape? : Char → Option Char
  | 'b' => some (Char.ofNat 0x08)
  | 't' => some '\t'
  | 'n' => some '\n'
  | 'f' => some (Char.ofNat 0x0C)
  | 'r' => some '\r'
  | 'e' => some (Char.ofNat 0x1B)
  | '"' => some '"'
  | '\\' => some '\\'
  | _ => none

/-- The number of digits of an escape by number. -/
def escapeWidth? : Char → Option Nat
  | 'x' => some 2
  | 'u' => some 4
  | 'U' => some 8
  | _ => none

/-- The character that an escape stands for, after its backslash, and what follows. -/
def readEscape (cs : List Char) : Option (Char × List Char) :=
  match cs with
  | [] => none
  | c :: rest =>
    match escape? c, escapeWidth? c with
    | some e, _ => some (e, rest)
    | none, some width => do
      let digits := rest.take width
      if digits.length < width then none
      else
        let n ← Text.hexNumber? digits
        if n < 0xD800 || (0xDFFF < n && n ≤ 0x10FFFF) then
          some (Char.ofNat n, rest.drop width)
        else none
    | none, none => none

/-- Reads a text of one line after its opening quote. -/
def readLine (quote : Char) : Nat → List Char → Option (List Char × List Char)
  | 0, _ => none
  | _ + 1, [] => none
  | fuel + 1, c :: cs =>
    if c = quote then some ([], cs)
    else if c = '\\' ∧ quote = '"' then do
      let (e, rest) ← readEscape cs
      let (text, rest) ← readLine quote fuel rest
      return (e :: text, rest)
    else if isPrintable c then do
      let (text, rest) ← readLine quote fuel cs
      return (c :: text, rest)
    else none

/-- What follows a backslash that ends a line: the blanks and line ends are passed over. -/
def passFold (cs : List Char) : Option (List Char) :=
  let rest := passBlanks cs
  let isGap (c : Char) : Bool := isBlank c || c == '\n' || c == '\r'
  match rest with
  | '\n' :: after => some (after.dropWhile isGap)
  | '\r' :: '\n' :: after => some (after.dropWhile isGap)
  | _ => none

/-- Reads a text of several lines after its opening quotes. -/
def readLines (quote : Char) : Nat → List Char → Option (List Char × List Char)
  | 0, _ => none
  | _ + 1, [] => none
  | fuel + 1, c :: cs =>
    if c = quote then
      let quotes := (c :: cs).takeWhile (· == quote)
      let rest := (c :: cs).drop quotes.length
      if quotes.length < 3 then do
        let (text, rest) ← readLines quote fuel rest
        return (quotes ++ text, rest)
      else if quotes.length ≤ 5 then some (quotes.drop 3, rest)
      else none
    else if c = '\\' ∧ quote = '"' then
      match passFold cs with
      | some rest => readLines quote fuel rest
      | none => do
        let (e, rest) ← readEscape cs
        let (text, rest) ← readLines quote fuel rest
        return (e :: text, rest)
    else if c = '\r' then
      match cs with
      | '\n' :: rest => do
        let (text, rest) ← readLines quote fuel rest
        return ('\n' :: text, rest)
      | _ => none
    else if isPrintable c ∨ c = '\n' then do
      let (text, rest) ← readLines quote fuel cs
      return (c :: text, rest)
    else none

/-- Reads a quoted text from its first quote on. -/
def readText (quote : Char) (cs : List Char) : Option (List Char × List Char) :=
  match cs with
  | _ :: b :: c :: rest =>
    if b = quote ∧ c = quote then
      readLines quote (cs.length + 1) (match rest with
        | '\n' :: after => after
        | '\r' :: '\n' :: after => after
        | rest => rest)
    else readLine quote (cs.length + 1) (b :: c :: rest)
  | _ :: rest => readLine quote (cs.length + 1) rest
  | [] => none

/-! ## Keys -/

/-- The characters of keys without quotes. -/
def isKeyChar (c : Char) : Bool :=
  c.isAlphanum || c == '_' || c == '-'

/-- Reads a key without dots. -/
def readSimpleKey (cs : List Char) : Option (String × List Char) :=
  match cs with
  | [] => none
  | c :: rest =>
    if c = '"' ∨ c = '\'' then do
      let (text, rest) ← readLine c (cs.length + 1) rest
      return (String.ofList text, rest)
    else
      let word := cs.takeWhile isKeyChar
      if word.isEmpty then none else some (String.ofList word, cs.drop word.length)

/-- Reads a key: the names before its last dot, backwards, and the one after it. -/
def readKey : Nat → List String → List Char → Option (List String × String × List Char)
  | 0, _, _ => none
  | fuel + 1, before, cs => do
    let (name, rest) ← readSimpleKey (passBlanks cs)
    match passBlanks rest with
    | '.' :: rest => readKey fuel (name :: before) rest
    | rest => return (before, name, rest)

/-- Reads a key: the path of the names before its last dot, and the one after it. -/
def key (cs : List Char) : Option (List String × String × List Char) := do
  let (before, name, rest) ← readKey (cs.length + 1) [] cs
  return (before.reverse, name, rest)

/-! ## Values -/

mutual

/-- Reads a value. -/
def readValue : Nat → List Char → Option (Item × List Char)
  | 0, _ => none
  | fuel + 1, cs =>
    match cs with
    | '"' :: _ => (readText '"' cs).map fun (s, rest) => (.text (String.ofList s), rest)
    | '\'' :: _ => (readText '\'' cs).map fun (s, rest) => (.text (String.ofList s), rest)
    | '[' :: rest => (readMembers fuel rest).map fun (vs, rest) => (.list vs, rest)
    | '\x7b' :: rest => (readPairs fuel [] rest).map fun (ms, rest) => (.complete ms, rest)
    | cs =>
      let (word, rest) := splitScalar cs
      (scalar? word).map fun v => (v, rest)

/-- Reads the members of a list after its opening bracket or a comma. -/
def readMembers : Nat → List Char → Option (List Item × List Char)
  | 0, _ => none
  | fuel + 1, cs =>
    match passAll cs with
    | ']' :: rest => some ([], rest)
    | cs => do
      let (v, rest) ← readValue fuel cs
      match passAll rest with
      | ']' :: rest => return ([v], rest)
      | ',' :: rest =>
        let (vs, rest) ← readMembers fuel rest
        return (v :: vs, rest)
      | _ => none

/-- Reads the members of a table after its opening brace or a comma; `before` has been read. -/
def readPairs : Nat → Members → List Char → Option (Members × List Char)
  | 0, _, _ => none
  | fuel + 1, before, cs =>
    match passAll cs with
    | '\x7d' :: rest => some (before, rest)
    | cs => do
      let (path, name, rest) ← key cs
      match rest with
      | '=' :: rest =>
        let (v, rest) ← readValue fuel (passBlanks rest)
        let members ← addAt path name v before
        match passAll rest with
        | '\x7d' :: rest => return (members, rest)
        | ',' :: rest => readPairs fuel members rest
        | _ => none
      | _ => none

end

/-! ## The text -/

/-- Where members are added: the table of the last header, and the table of all. -/
structure Place where
  path : List String := []
  all : Members := []

/-- Adds a value under a dotted key to the table of the last header. -/
def Place.add (p : Place) (path : List String) (name : String) (v : Item) : Option Place := do
  let all ← changeAt .passed (fun _ inner => addAt path name v inner) p.path .header p.all
  return { p with all }

/-- Reads a header after its opening brackets. -/
def readHeader (inDouble : Bool) (p : Place) (cs : List Char) : Option (Place × List Char) := do
  let (path, name, rest) ← key cs
  let all ← if inDouble then openRow path name p.all else openTable path name p.all
  let p : Place := { path := path ++ [name], all }
  match rest with
  | ']' :: rest =>
    if inDouble then
      match rest with
      | ']' :: rest => return (p, rest)
      | _ => none
    else return (p, rest)
  | _ => none

/-- Reads a member: a key and its value. -/
def readMember (p : Place) (cs : List Char) : Option (Place × List Char) := do
  let (path, name, rest) ← key cs
  match rest with
  | '=' :: rest => do
    let (v, rest) ← readValue (rest.length + 1) (passBlanks rest)
    return (← p.add path name v, rest)
  | _ => none

/-- Reads the lines of a text. -/
def readDocument : Nat → Place → List Char → Option Members
  | 0, _, _ => none
  | fuel + 1, p, cs =>
    match passAll cs with
    | [] => some p.all
    | cs => do
      let (p, rest) ← match cs with
        | '[' :: '[' :: rest => readHeader true p rest
        | '[' :: rest => readHeader false p rest
        | cs => readMember p cs
      readDocument fuel p (← passLineEnd (passComment (passBlanks rest)))

/-- The document of a text, if it keeps the rules. -/
def document? (s : String) : Option Whole := do
  let cs := match s.toList with
    | c :: rest => if c.toNat = 0xFEFF then rest else c :: rest
    | [] => []
  let members ← readDocument (cs.length + 1) {} cs
  return { root := .record (memberNodes members) .closed none, more := false }

end GatewayProvisioning.Toml
