import GatewayProvisioning.Document.Node

/-!
The tree of a TOML text. A table remembers how it came to be, for this decides what may still be
added to it: a table between brackets is complete, a header completes a table that other headers only
passed through, and dotted keys add only to tables of dotted keys.
-/

namespace GatewayProvisioning.Toml

open Document

/-- How a table came to be: headers passed through it, a header named it, or dotted keys did. -/
inductive Origin where
  | passed
  | header
  | dotted
  deriving DecidableEq, Repr

/-- The values of a text. `tables` are those of a header in double brackets, the last one first. -/
inductive Item where
  | text (s : String)
  | integer (i : Int)
  | float
  | flag (b : Bool)
  | moment (written : String)
  | list (members : List Item)
  | complete (members : List (String × Item))
  | table (origin : Origin) (members : List (String × Item))
  | tables (rows : List (List (String × Item)))

/-- The members of a table. -/
abbrev Members := List (String × Item)

/-- Members after one has been put in place of that of the same name, or at the end. -/
def putMember (k : String) (v : Item) : Members → Members
  | [] => [(k, v)]
  | (l, w) :: rest => if k = l then (k, v) :: rest else (l, w) :: putMember k v rest

/-- Adds a member that is new. -/
def addMember (k : String) (v : Item) (ms : Members) : Option Members :=
  if (ms.lookup k).isSome then none else some (ms ++ [(k, v)])

/-- Changes the table that a path leads to. Tables that are missing on the way come to be as `missing`
says; only such tables and those that headers passed through may be on the way of a dotted key. -/
def changeAt (missing : Origin) (change : Origin → Members → Option Members) :
    List String → Origin → Members → Option Members
  | [], origin, ms => change origin ms
  | k :: path, _, ms =>
    match ms.lookup k with
    | none => do
      let inner ← changeAt missing change path missing []
      return putMember k (.table missing inner) ms
    | some (.table origin inner) =>
      if missing = .dotted ∧ origin = .header then none
      else do
        let inner ← changeAt missing change path origin inner
        return putMember k (.table origin inner) ms
    | some (.tables (row :: rows)) => do
      let row ← changeAt missing change path .header row
      return putMember k (.tables (row :: rows)) ms
    | some _ => none

/-- Adds a value under a dotted key. -/
def addAt (path : List String) (k : String) (v : Item) (ms : Members) : Option Members :=
  if path.isEmpty then addMember k v ms
  else
    changeAt .dotted (fun origin inner => if origin = .dotted then addMember k v inner else none)
      path .header ms

/-- Opens the table of a header. -/
def openTable (path : List String) (k : String) (ms : Members) : Option Members :=
  changeAt .passed (fun _ inner =>
    match inner.lookup k with
    | none => some (putMember k (.table .header []) inner)
    | some (.table .passed before) => some (putMember k (.table .header before) inner)
    | some _ => none) path .header ms

/-- Opens one more table of a header in double brackets. -/
def openRow (path : List String) (k : String) (ms : Members) : Option Members :=
  changeAt .passed (fun _ inner =>
    match inner.lookup k with
    | none => some (putMember k (.tables [[]]) inner)
    | some (.tables rows) => some (putMember k (.tables ([] :: rows)) inner)
    | some _ => none) path .header ms

/-! ## Documents -/

mutual

/-- The node of a value. A date or a time is no text, and stands for a record that nobody knows. -/
def Item.node : Item → Node
  | .text s => .ofText s
  | .integer i => .number (.ofInt i)
  | .float => .number { negative := false, whole := [], fraction := some [] }
  | .flag b => .flag b
  | .moment written => .record [(.ofText "date and time", .ofText written)] .closed none
  | .list members => .list (itemNodes members) .closed
  | .complete members => .record (memberNodes members) .closed none
  | .table _ members => .record (memberNodes members) .closed none
  | .tables rows => .list (rowNodes rows) .closed

/-- The nodes of values. -/
def itemNodes : List Item → List Node
  | [] => []
  | v :: vs => v.node :: itemNodes vs

/-- The nodes of members. -/
def memberNodes : List (String × Item) → List (Node × Node)
  | [] => []
  | (k, v) :: rest => (.ofText k, v.node) :: memberNodes rest

/-- The nodes of tables, given with the last one first. -/
def rowNodes : List (List (String × Item)) → List Node
  | [] => []
  | row :: rows => rowNodes rows ++ [.record (memberNodes row) .closed none]

end

end GatewayProvisioning.Toml
