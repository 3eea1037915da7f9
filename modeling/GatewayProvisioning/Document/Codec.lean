import GatewayProvisioning.Document.Scalar
import GatewayProvisioning.Json.Basic

/-!
Types that documents hold: how a value is read from a node and written as JSON. A record type is
given by its fields; it is read from a record in any order, or from a list in the order of the
fields. Reading goes from left to right and fails at the first thing that is wrong.
-/

namespace GatewayProvisioning.Document

/-- How values of a type are read and written. -/
structure Codec (α : Type) where
  read : Node → Except ReadError α
  write : α → Json

/-- The value of a document that holds nothing else. -/
def Codec.decode {α : Type} (codec : Codec α) (document : Whole) : Except ReadError α := do
  let v ← codec.read document.root
  if document.more then throw .more
  return v

namespace Codec

/-- A codec along a correspondence of types. -/
def along {α β : Type} (codec : Codec α) (build : α → β) (parts : β → α) : Codec β where
  read v := build <$> codec.read v
  write x := codec.write (parts x)

/-! ## Scalars -/

/-- Texts. -/
def text : Codec String where
  read v := v.readText "a string"
  write s := .text s

/-- Truth values. -/
def flag : Codec Bool where
  read v :=
    match v.untagged with
    | .flag b => .ok b
    | .plain _ (.flag b) => .ok b
    | v => .error (v.mismatch "a boolean")
  write b := .flag b

/-- The natural numbers below a bound, read as a type of that size. -/
def readBounded (bound : Nat) (expected : String) : Node → Except ReadError Nat
  | .number n => do
    match ← readNumber n with
    | .natural k =>
      if k < bound then return k
      else throw (.wrongValue (.number (.natural k)) expected)
    | .negative k => throw (.wrongValue (.number (.negative k)) expected)
    | .float x => throw (.wrongType (.number (.float x)) expected)
  | v => .error (v.mismatch expected)

/-- The node that a reader of numbers looks at. -/
def meaning (v : Node) : Node :=
  match v.untagged with
  | .plain _ m => m
  | v => v

/-- Numbers of sixteen bits. -/
def uint16 : Codec UInt16 where
  read v := UInt16.ofNat <$> readBounded UInt16.size "u16" (meaning v)
  write n := .nat n.toNat

/-- Numbers of thirty-two bits. -/
def uint32 : Codec UInt32 where
  read v := UInt32.ofNat <$> readBounded UInt32.size "u32" (meaning v)
  write n := .nat n.toNat

/-- Numbers of sixty-four bits. -/
def uint64 : Codec UInt64 where
  read v := UInt64.ofNat <$> readBounded UInt64.size "u64" (meaning v)
  write n := .nat n.toNat

/-! ## Options, lists and maps -/

/-- Values that may be null. -/
def optional {α : Type} (codec : Codec α) : Codec (Option α) where
  read v :=
    match v with
    | .null => .ok none
    | .plain _ .null => .ok none
    | v => some <$> codec.read v
  write
    | none => .null
    | some x => codec.write x

/-- Reads the members of a list one after the other. -/
def readMembers {α : Type} (codec : Codec α) (ending : Ending) : List Node → Except ReadError (List α)
  | [] => do
    ending.checkList
    return []
  | v :: vs => do
    let x ← codec.read v
    return x :: (← readMembers codec ending vs)

/-- Lists. -/
def list {α : Type} (codec : Codec α) : Codec (List α) where
  read v :=
    match v.untagged with
    | .list members ending => readMembers codec ending members
    | .plain "" _ => .ok []
    | v => .error (v.mismatch "a sequence")
  write xs := .list (xs.map codec.write)

/-- Reads the members of a map, the last of a name in place of those before it. -/
def readEntries {α : Type} (codec : Codec α) (ending : Ending) (badKey : Option Node)
    (before : NameMap α) : List (Node × Node) → Except ReadError (NameMap α)
  | [] => do
    checkRecord badKey ending
    return before
  | (k, v) :: rest => do
    let name ← k.readText "a string"
    let x ← codec.read v
    readEntries codec ending badKey (before.insert name x) rest

/-- Maps from names to values. -/
def map {α : Type} (codec : Codec α) : Codec (NameMap α) where
  read v :=
    match v.untagged with
    | .record members ending badKey => readEntries codec ending badKey .empty members
    | .plain "" _ => .ok .empty
    | v => .error (v.mismatch "a map")
  write m := .record (m.entries.map fun (k, x) => (k, codec.write x))

end Codec

/-! ## Records -/

/-- A field of a record type. A field that may be missing has a fallback, and one that `omits` its
value is not written. -/
structure Field (α : Type) where
  name : String
  codec : Codec α
  fallback : Option α := none
  omits : α → Bool := fun _ => false

/-- A field that must be there. -/
def Field.required {α : Type} (name : String) (codec : Codec α) : Field α :=
  { name, codec }

/-- A field that has a value also when it is missing. -/
def Field.defaulted {α : Type} (name : String) (codec : Codec α) (fallback : α) : Field α :=
  { name, codec, fallback := some fallback }

/-- The fields of a record type `τ`; while a record is read, `φ` holds what has been found. -/
inductive Fields : Type → Type → Type 1 where
  | none : Fields Unit Unit
  | field {α τ φ : Type} (first : Field α) (rest : Fields τ φ) : Fields (α × τ) (Option α × φ)

namespace Fields

/-- The state in which no field has been found. -/
def start : {τ φ : Type} → Fields τ φ → φ
  | _, _, .none => ()
  | _, _, .field _ rest => (Option.none, rest.start)

/-- The number of fields. -/
def count : {τ φ : Type} → Fields τ φ → Nat
  | _, _, .none => 0
  | _, _, .field _ rest => rest.count + 1

/-- Takes up a member of a record; the answer is empty if no field has its name. -/
def accept : {τ φ : Type} → Fields τ φ → String → Node → φ → Except ReadError (Option φ)
  | _, _, .none, _, _, _ => .ok Option.none
  | _, _, .field first rest, key, v, (slot, found) =>
    if key = first.name then
      match slot with
      | some _ => .error (.duplicateField first.name)
      | Option.none => do return some (some (← first.codec.read v), found)
    else do
      match ← rest.accept key v found with
      | some found => return some (slot, found)
      | Option.none => return Option.none

/-- The record of what has been found; a field that is missing takes its fallback. -/
def finish : {τ φ : Type} → Fields τ φ → φ → Except ReadError τ
  | _, _, .none, _ => .ok ()
  | _, _, .field first rest, (slot, found) =>
    match slot <|> first.fallback with
    | some x => do return (x, ← rest.finish found)
    | Option.none => .error (.missingField first.name)

/-- Reads the members of a record. A member of another name is passed over. -/
def readRecord {τ φ : Type} (fields : Fields τ φ) (ending : Ending) (badKey : Option Node)
    (found : φ) : List (Node × Node) → Except ReadError τ
  | [] => do
    checkRecord badKey ending
    fields.finish found
  | (k, v) :: rest => do
    let key ← k.readText "field identifier"
    match ← fields.accept key v found with
    | some found => fields.readRecord ending badKey found rest
    | Option.none => do
      v.skip
      fields.readRecord ending badKey found rest

/-- The fallbacks of all fields from the one with the given index on. -/
def fallbacks (title : String) (total : Nat) : {τ φ : Type} → Fields τ φ → Nat → Except ReadError τ
  | _, _, .none, _ => .ok ()
  | _, _, .field first rest, index =>
    match first.fallback with
    | some x => do return (x, ← rest.fallbacks title total (index + 1))
    | Option.none => .error (.wrongLength index (title ++ " with " ++ elementCount total))

/-- The error, if any, of a list that has given a record its last field. -/
def checkAfterLast (ending : Ending) : List Node → Except ReadError Unit
  | _ :: _ => .error .more
  | [] =>
    match ending with
    | .closed => .ok ()
    | .comma => .error .commaAtEnd
    | .cut => .error .listCut
    | _ => .error .more

/-- Reads a record from a list, in the order of its fields. -/
def readList (title : String) (total : Nat) (ending : Ending) :
    {τ φ : Type} → Fields τ φ → Nat → List Node → Except ReadError τ
  | _, _, .none, _, members => checkAfterLast ending members
  | _, _, .field first rest, index, v :: vs => do
    let x ← first.codec.read v
    return (x, ← rest.readList title total ending (index + 1) vs)
  | _, _, fields, index, [] => do
    ending.checkList
    fields.fallbacks title total index

/-- The members of a written record. -/
def write : {τ φ : Type} → Fields τ φ → τ → List (String × Json)
  | _, _, .none, _ => []
  | _, _, .field first rest, (x, xs) =>
    if first.omits x then rest.write xs else (first.name, first.codec.write x) :: rest.write xs

end Fields

/-- A record type of the given title, which messages name. -/
def Codec.record {τ φ : Type} (title : String) (fields : Fields τ φ) : Codec τ where
  read v :=
    match v.untagged with
    | .record members ending badKey => fields.readRecord ending badKey fields.start members
    | .list members .sealed => .error ((Node.list members .sealed).mismatch title)
    | .list members ending => fields.readList title fields.count ending 0 members
    | .plain "" _ => fields.finish fields.start
    | v => .error (v.mismatch title)
  write x := .record (fields.write x)

end GatewayProvisioning.Document
