import GatewayProvisioning.Yaml.Meaning
import GatewayProvisioning.Yaml.Token

/-!
YAML text as a document. An alias stands for the value that its anchor names; the text that breaks a
rule anywhere has no document.
-/

namespace GatewayProvisioning.Yaml

open Document

/-- The tokens that are left, the values that anchors name, and the handles of tags. -/
structure Supply where
  tokens : List Token
  anchors : List (String × Node) := []
  handles : List String := ["!", "!!", ""]

/-- Building values from tokens. -/
abbrev Build := StateT Supply Option

namespace Build

/-- The next token; there may be none. -/
def peek : Build (Option Token) := do
  return (← get).tokens.head?

/-- Takes the next token away. -/
def skip : Build Unit :=
  modify fun s => { s with tokens := s.tokens.tail }

/-- Whether the next token is one of those given. -/
def sees (ts : List Token) : Build Bool := do
  return (← peek).any ts.contains

/-- Takes the next token away if it is the one given. -/
def accept (t : Token) : Build Bool := do
  if ← sees [t] then
    skip
    return true
  else return false

/-- Names a value. -/
def name (anchor : Option String) (v : Node) : Build Unit :=
  modify fun s => { s with anchors := anchor.toList.map (·, v) ++ s.anchors }

end Build

/-- What stands where nothing is written. -/
def nothing : Node := .plain "" .null

/-- A scalar: only without quotes it may mean something else than its text. -/
def scalar (text : String) (isPlain : Bool) : Node :=
  if isPlain then .plain text (meaning text) else .ofText text

/-- Whether a tag names a type of the document's own. -/
def Tag.isOwn (t : Tag) : Bool :=
  (t.handle == "!" && t.name != "") ||
    (t.handle == "" && t.name.startsWith "!" && t.name != "!")

/-- A value with its tag. -/
def withTag (tag : Option Tag) (v : Node) : Node :=
  if tag.any (·.isOwn) then .tagged v else v

/-- Reads the anchor and the tag before a value, in any order. -/
def properties : Build (Option String × Option Tag) := do
  match ← Build.peek with
  | some (.anchor a) => do
    Build.skip
    match ← Build.peek with
    | some (.tag t) => do
      Build.skip
      return (some a, some t)
    | _ => return (some a, none)
  | some (.tag t) => do
    Build.skip
    match ← Build.peek with
    | some (.anchor a) => do
      Build.skip
      return (some a, some t)
    | _ => return (none, some t)
  | _ => return (none, none)

mutual

/-- Reads a value. `inBlock` tells whether it may be a collection without brackets, and
`unindented` whether it may be a list whose dashes stand no further to the right. -/
def node (inBlock unindented : Bool) : Nat → Build Node
  | 0 => failure
  | fuel + 1 => do
    match ← Build.peek with
    | some (.alias a) => do
      Build.skip
      match (← get).anchors.lookup a with
      | some v => return v
      | none => failure
    | _ => do
      let (anchor, tag) ← properties
      let handles := (← get).handles
      if tag.any fun t => !handles.contains t.handle then failure
      Build.name anchor (.gap .endless)
      let v ← content inBlock unindented (anchor.isSome || tag.isSome) fuel
      let v := withTag tag v
      Build.name anchor v
      return v

/-- Reads a value after its anchor and its tag. -/
def content (inBlock unindented mayBeEmpty : Bool) : Nat → Build Node
  | 0 => failure
  | fuel + 1 => do
    match ← Build.peek with
    | some .entry =>
      if unindented then return .list (← unindentedEntries fuel) .sealed
      else if mayBeEmpty then return nothing
      else failure
    | some (.scalar text isPlain) => do
      Build.skip
      return scalar text isPlain
    | some .openSequence => do
      Build.skip
      return .list (← flowEntries true fuel) .sealed
    | some .openMapping => do
      Build.skip
      return .record (← flowPairs true fuel) .closed none
    | some .sequence =>
      if inBlock then do
        Build.skip
        return .list (← entries fuel) .sealed
      else if mayBeEmpty then return nothing
      else failure
    | some .mapping =>
      if inBlock then do
        Build.skip
        return .record (← pairs fuel) .closed none
      else if mayBeEmpty then return nothing
      else failure
    | _ => if mayBeEmpty then return nothing else failure

/-- Reads a value, or nothing if one of the given tokens comes next. -/
def nodeUnless (stops : List Token) (inBlock unindented : Bool) : Nat → Build Node
  | 0 => failure
  | fuel + 1 => do
    if ← Build.sees stops then return nothing
    else node inBlock unindented fuel

/-- Reads the members of a list without brackets. -/
def entries : Nat → Build (List Node)
  | 0 => failure
  | fuel + 1 => do
    if ← Build.accept .entry then
      let v ← nodeUnless [.entry, .blockEnd] true false fuel
      return v :: (← entries fuel)
    else if ← Build.accept .blockEnd then return []
    else failure

/-- Reads the members of a list whose end nothing marks. -/
def unindentedEntries : Nat → Build (List Node)
  | 0 => failure
  | fuel + 1 => do
    if ← Build.accept .entry then
      let v ← nodeUnless [.entry, .key, .value, .blockEnd] true false fuel
      return v :: (← unindentedEntries fuel)
    else return []

/-- Reads the members of a record without brackets. -/
def pairs : Nat → Build (List (Node × Node))
  | 0 => failure
  | fuel + 1 => do
    if ← Build.accept .blockEnd then return []
    else do
      if ← Build.accept .key then
        let k ← nodeUnless [.key, .value, .blockEnd] true true fuel
        let v ← pairValue fuel
        return (k, v) :: (← pairs fuel)
      else failure

/-- Reads the value of a member of a record without brackets. -/
def pairValue : Nat → Build Node
  | 0 => failure
  | fuel + 1 => do
    if ← Build.accept .value then nodeUnless [.key, .value, .blockEnd] true true fuel
    else return nothing

/-- Reads the members of a list in brackets. -/
def flowEntries (first : Bool) : Nat → Build (List Node)
  | 0 => failure
  | fuel + 1 => do
    if ← Build.accept .closeSequence then return []
    else do
      if !first then
        if !(← Build.accept .comma) then failure
      if ← Build.accept .closeSequence then return []
      else do
        let v ← flowEntry fuel
        return v :: (← flowEntries false fuel)

/-- Reads a member of a list in brackets, which may be a record of one member. -/
def flowEntry : Nat → Build Node
  | 0 => failure
  | fuel + 1 => do
    if ← Build.accept .key then
      let k ←
        if ← Build.sees [.value, .comma, .closeSequence] then do
          Build.skip
          pure nothing
        else node false false fuel
      let v ←
        if ← Build.accept .value then nodeUnless [.comma, .closeSequence] false false fuel
        else pure nothing
      return .record [(k, v)] .closed none
    else node false false fuel

/-- Reads the members of a record in brackets. -/
def flowPairs (first : Bool) : Nat → Build (List (Node × Node))
  | 0 => failure
  | fuel + 1 => do
    if ← Build.accept .closeMapping then return []
    else do
      if !first then
        if !(← Build.accept .comma) then failure
      if ← Build.accept .closeMapping then return []
      else do
        let member ← flowPair fuel
        return member :: (← flowPairs false fuel)

/-- Reads a member of a record in brackets. -/
def flowPair : Nat → Build (Node × Node)
  | 0 => failure
  | fuel + 1 => do
    if ← Build.accept .key then
      let k ← nodeUnless [.value, .comma, .closeMapping] false false fuel
      let v ←
        if ← Build.accept .value then nodeUnless [.comma, .closeMapping] false false fuel
        else pure nothing
      return (k, v)
    else return (← node false false fuel, nothing)

end

/-- Reads the directives before a document; the version may be given once. -/
def directives (versionGiven : Bool) : Nat → Build Unit
  | 0 => failure
  | fuel + 1 => do
    match ← Build.peek with
    | some (.version major minor) =>
      if versionGiven || major ≠ 1 || (minor ≠ 1 && minor ≠ 2) then failure
      Build.skip
      directives true fuel
    | some (.handle name) => do
      Build.skip
      modify fun s => { s with handles := name :: s.handles }
      directives versionGiven fuel
    | some .documentStart => Build.skip
    | _ => failure

/-- Reads the only document of a text. -/
def root (fuel : Nat) : Build Node := do
  match ← Build.peek with
  | none => return nothing
  | some t =>
    let v ← match t with
      | .version .. | .handle _ | .documentStart => do
        directives false fuel
        match ← Build.peek with
        | none | some (.version ..) | some (.handle _) | some .documentStart | some .documentEnd =>
          pure nothing
        | some _ => node true false fuel
      | _ => node true false fuel
    modify fun s => { s with tokens := s.tokens.dropWhile (· == .documentEnd) }
    if (← get).tokens.isEmpty then return v else failure

/-- The document of a text, if it keeps the rules. -/
def document? (s : String) : Option Whole := do
  let tokens ← tokens? s.toList
  let (v, _) ← (root (6 * tokens.length + 16)).run { tokens }
  return { root := v, more := false }

end GatewayProvisioning.Yaml
