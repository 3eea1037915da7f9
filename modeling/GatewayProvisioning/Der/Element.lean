import GatewayProvisioning.Text.Utf8

/-!
DER: values as a tag, a length and a content, one after the other. The strict reading takes only the
shortest form of a length; the tree of a text takes any.
-/

namespace GatewayProvisioning.Der

/-- The number that bytes write, the first of which counts most. -/
def number (bytes : Bytes) : Nat :=
  bytes.foldl (fun n b => 256 * n + b.toNat) 0

/-! ## Strict reading -/

/-- A tag and a content. -/
structure Element where
  tag : UInt8
  content : Bytes
  deriving DecidableEq, Repr

/-- Reads a length in its shortest form. -/
def readLength? : Bytes → Option (Nat × Bytes)
  | [] => none
  | b :: rest =>
    if b < 0x80 then some (b.toNat, rest)
    else
      let count := b.toNat - 0x80
      let value := number (rest.take count)
      if 0 < count ∧ count ≤ 4 ∧ count ≤ rest.length ∧ 128 ≤ value ∧ 0 < value >>> (8 * (count - 1)) then
        some (value, rest.drop count)
      else none

/-- Reads a value: its tag and content, and what follows it. -/
def read? : Bytes → Option (Element × Bytes)
  | [] => none
  | tag :: rest => do
    if tag &&& 0x1F = 0x1F then none
    else
      let (length, rest) ← readLength? rest
      if rest.length < length then none else some (⟨tag, rest.take length⟩, rest.drop length)

/-- Reads the content of a value of a tag. -/
def readTag? (tag : UInt8) (bytes : Bytes) : Option (Bytes × Bytes) := do
  let (e, rest) ← read? bytes
  if e.tag = tag then some (e.content, rest) else none

/-- The content of a text that is one value of a tag. -/
def only? (tag : UInt8) (bytes : Bytes) : Option Bytes := do
  let (content, rest) ← readTag? tag bytes
  if rest.isEmpty then some content else none

/-- The tag of integers. -/
def integerTag : UInt8 := 0x02

/-- The tag of bit strings. -/
def bitsTag : UInt8 := 0x03

/-- The tag of octet strings. -/
def octetsTag : UInt8 := 0x04

/-- The tag of sequences. -/
def sequenceTag : UInt8 := 0x30

/-- Reads an integer that is not negative, in its shortest form. -/
def readNatural? (bytes : Bytes) : Option (Nat × Bytes) := do
  let (content, rest) ← readTag? integerTag bytes
  match content with
  | [] => none
  | [a] => if a < 0x80 then some (a.toNat, rest) else none
  | a :: b :: more =>
    if a = 0 then if b < 0x80 then none else some (number (b :: more), rest)
    else if a < 0x80 then some (number content, rest)
    else none

/-- Reads an integer of one byte. -/
def readSmall? (bytes : Bytes) : Option (Nat × Bytes) := do
  let (n, rest) ← readNatural? bytes
  if n < 256 then some (n, rest) else none

/-! ## Trees -/

/-- A value by its meaning, as far as it matters. -/
inductive Tree where
  | sequence (members : List Tree)
  | objectId (arcs : List Nat)
  | bits (content : Bytes)
  | octets (content : Bytes)
  | other

/-- Reads a length of any form. -/
def readAnyLength? : Bytes → Option (Nat × Bytes)
  | [] => none
  | b :: rest =>
    if b < 0x80 then some (b.toNat, rest)
    else
      let count := b.toNat - 0x80
      if count ≤ 8 ∧ count ≤ rest.length then some (number (rest.take count), rest.drop count)
      else none

/-- Reads a number in groups of seven bits; all but the last group have their high bit set. -/
def readGroups? (n : Nat) : Bytes → Option (Nat × Bytes)
  | [] => none
  | b :: rest =>
    let n := 128 * n + b.toNat % 128
    if b < 0x80 then some (n, rest) else readGroups? n rest

/-- Skips the rest of a tag that takes several bytes. -/
def skipTag? (tag : UInt8) (rest : Bytes) : Option Bytes :=
  if tag &&& 0x1F = 0x1F then (readGroups? 0 rest).map Prod.snd else some rest

/-- The arcs of an object identifier after the first byte. -/
def arcs? : Nat → Bytes → Option (List Nat)
  | _, [] => some []
  | 0, _ => none
  | fuel + 1, bytes => do
    let (n, rest) ← readGroups? 0 bytes
    return n :: (← arcs? fuel rest)

/-- The arcs of an object identifier. -/
def objectId? : Bytes → Option (List Nat)
  | [] => none
  | b :: rest => do
    let first := b.toNat
    let top := if first < 40 then [0, first] else if first < 80 then [1, first - 40]
      else [2, first - 80]
    return top ++ (← arcs? rest.length rest)

mutual

/-- The trees of values that stand one after the other. -/
def trees? : Nat → Bytes → Option (List Tree)
  | 0, _ => none
  | _ + 1, [] => some []
  | fuel + 1, tag :: rest => do
    let rest ← skipTag? tag rest
    let (length, rest) ← readAnyLength? rest
    if rest.length < length then none
    else
      let first ← tree? fuel tag (rest.take length)
      return first :: (← trees? fuel (rest.drop length))

/-- The tree of a tag and a content. A sequence or set is never empty. -/
def tree? : Nat → UInt8 → Bytes → Option Tree
  | 0, _, _ => none
  | fuel + 1, tag, content =>
    if 0x40 ≤ tag then some .other
    else
      match (tag &&& 0x1F).toNat with
      | 0x01 => if content.length = 1 then some .other else none
      | 0x03 =>
        match content with
        | [] => some (.bits [])
        | unused :: bits => if 8 * bits.length < unused.toNat then none else some (.bits bits)
      | 0x04 => some (.octets content)
      | 0x06 => (objectId? content).map .objectId
      | 0x0C => (Utf8.decode? content).map fun _ => .other
      | 0x10 => do
        match ← trees? fuel content with
        | [] => none
        | members => some (.sequence members)
      | 0x11 => do
        match ← trees? fuel content with
        | [] => none
        | _ => some .other
      | _ => some .other

end

/-- The trees of a text, of which there is at least one. -/
def ofBytes? (bytes : Bytes) : Option (List Tree) := do
  match ← trees? (2 * bytes.length + 2) bytes with
  | [] => none
  | members => some members

mutual

/-- What `f` first finds among the values inside a tree, sequences being entered. -/
def Tree.findFirst? {α : Type} (f : Tree → Option α) : Tree → Option α
  | .sequence members => findFirstIn? f members
  | t => f t

/-- What `f` first finds among the values inside trees. -/
def findFirstIn? {α : Type} (f : Tree → Option α) : List Tree → Option α
  | [] => none
  | t :: ts =>
    match t.findFirst? f with
    | some x => some x
    | none => findFirstIn? f ts

end

end GatewayProvisioning.Der
