import GatewayProvisioning.Files.Path
import GatewayProvisioning.Files.Source

/-!
The state of a file system: which folders and files there are, with the content and the mode of each
file. A path is followed from folder to folder; where it leads may be free. The system may refuse any
call, and a write also when a part of it is done, for reasons that are not told here: rights, owners,
room, a broken device.
-/

namespace GatewayProvisioning

/-- Where something stands: the names of the folders above it and its own. The place where relative
paths begin is empty; the names of an absolute path follow a slash. -/
abbrev Location := List String

/-- What stands at a location: a folder, a file, or a device on which no byte finds room. -/
inductive Entry where
  | folder
  | file (content : Bytes) (mode : Nat)
  | full
  deriving DecidableEq, Repr

/-- The user and the group that a file belongs to. -/
structure Owner where
  user : UInt32
  group : UInt32
  deriving DecidableEq, Repr

/-- What is asked of the system about a location. -/
inductive SystemCall where
  | read (l : Location)
  | createFolder (l : Location)
  | openEmpty (l : Location) (mode : Nat)
  | write (l : Location) (content : Bytes)
  | setMode (l : Location) (mode : Nat)
  | setOwner (l : Location) (owner : Owner)
  deriving DecidableEq, Repr

/-- How the system refuses a call. Of a content that is to be written it has taken some bytes before,
but not the last one. -/
structure Refusal where
  error : SystemError
  taken : Nat := 0
  deriving DecidableEq, Repr

/-- An entry after a call that was to change it, and why the system refused the call if it did. -/
def Entry.unlessRefused (refusal : Option Refusal) (e changed : Entry) : Entry × Option SystemError :=
  match refusal with
  | none => (changed, none)
  | some refusal => (e, some refusal.error)

/-- An empty entry after a content was written to it. Nothing is asked of the system if there is no
byte to write. -/
def Entry.withContent (content : Bytes) (refusal : Option Refusal) :
    Entry → Entry × Option SystemError
  | .folder => (.folder, some .isFolder)
  | .full => (.full, if content.isEmpty then none else some .noSpace)
  | .file before mode =>
    match refusal with
    | none => (.file content mode, none)
    | some refusal =>
      if content.isEmpty then (.file before mode, none)
      else (.file (content.dropLast.take refusal.taken) mode, some refusal.error)

/-- An entry with a new mode. -/
def Entry.withMode (mode : Nat) : Entry → Entry
  | .file content _ => .file content mode
  | e => e

/-- The mode of a file after it was given to an owner: its right to run as that owner is gone, and so
is that to run as the group, if the group may run it. -/
def givenAway (mode : Nat) : Nat :=
  let mode := if mode.testBit 11 then mode - 0o4000 else mode
  if mode.testBit 10 ∧ mode.testBit 3 then mode - 0o2000 else mode

/-- An entry that was given to an owner. -/
def Entry.withOwner : Entry → Entry
  | .file content mode => .file content (givenAway mode)
  | e => e

/-- A file system: its entries, each at its location, what the system refuses as long as these are the
entries, and the bits that the mode of a new file does not get. -/
structure Disk where
  entries : List (Location × Entry)
  refuses : List (Location × Entry) → SystemCall → Option Refusal := fun _ _ => none
  mask : Nat := 0o022

/-- The location of the folder above; that of a beginning is the beginning. -/
def Location.above (l : Location) : Location :=
  if l.length ≤ 1 ∧ l.head?.all (· = "/") then l else l.dropLast

namespace Disk

/-- What stands at a location. -/
def get? (d : Disk) (l : Location) : Option Entry :=
  d.entries.lookup l

/-- Puts an entry in place of the one of the same location. -/
def putEntry (l : Location) (e : Entry) : List (Location × Entry) → List (Location × Entry)
  | [] => [(l, e)]
  | (k, f) :: rest => if l = k then (k, e) :: rest else (k, f) :: putEntry l e rest

/-- A disk after an entry has been put at a location. -/
def put (d : Disk) (l : Location) (e : Entry) : Disk :=
  { d with entries := putEntry l e d.entries }

/-- A file system without files, where nothing is refused. It has the device that is always full. -/
def bare : Disk where
  entries :=
    [([], .folder), (["/"], .folder), (["/", "dev"], .folder), (["/", "dev", "full"], .full)]

/-- How the system refuses a call, if it does. -/
def refusal? (d : Disk) (call : SystemCall) : Option Refusal :=
  d.refuses d.entries call

/-- Fails if the system refuses a call. -/
def allow (d : Disk) (call : SystemCall) : Except SystemError Unit :=
  match d.refusal? call with
  | none => .ok ()
  | some refusal => .error refusal.error

/-! ## Following a path -/

/-- The location that a step leads to from a folder. -/
def step (d : Disk) (here : Location) (name : String) : Except SystemError Location :=
  match d.get? here with
  | none => .error .noEntry
  | some .folder =>
    if name = "." then .ok here
    else if name = ".." then .ok here.above
    else if Path.nameLimit < name.utf8ByteSize then .error .nameTooLong
    else .ok (here ++ [name])
  | some _ => .error .notFolder

/-- The location that steps lead to. -/
def walk (d : Disk) (here : Location) (steps : List String) : Except SystemError Location :=
  steps.foldlM d.step here

/-- Where a path begins. -/
def beginning (path : String) : Location :=
  if Path.isAbsolute path then ["/"] else []

/-- The location that a path leads to; after a slash at its end it has to be a folder. -/
def locate (d : Disk) (path : String) : Except FileFault Location := do
  Path.check path
  let l ← (d.walk (beginning path) (Path.steps path)).mapError .system
  if Path.endsInSlash path then (d.step l ".").mapError .system else return l

/-- Reads a file. -/
def read (d : Disk) : FileSource := fun path => do
  let l ← d.locate path
  match d.get? l with
  | none => .error (.system .noEntry)
  | some e =>
    (d.allow (.read l)).mapError .system
    match e with
    | .folder => .error (.system .isFolder)
    | .file content _ => .ok content
    | .full => .ok []

/-- Whether a file or a folder stands where a path leads to. -/
def holds (d : Disk) (path : String) : Bool :=
  match d.locate path with
  | .ok l => (d.get? l).isSome
  | .error _ => false

/-! ## Folders -/

/-- Whether steps lead to a folder. -/
def isFolder (d : Disk) (start : Location) (steps : List String) : Bool :=
  match d.walk start steps with
  | .ok l => d.get? l == some .folder
  | .error _ => false

/-- Creates the folder that steps lead to. The folder above it must be there. -/
def createFolder (d : Disk) (start : Location) (steps : List String) :
    Except SystemError Disk := do
  let above ← d.walk start steps.dropLast
  match steps.getLast? with
  | none => throw .exists
  | some name =>
    let l ← d.step above name
    if name = "." ∨ name = ".." ∨ (d.get? l).isSome then throw .exists
    d.allow (.createFolder l)
    return d.put l .folder

/-- Creates the first of the given folders. When the folder above it is missing, the others are
created before, from the last one on. That a folder is there already is no fault. -/
def createFirst (d : Disk) (start : Location) : List (List String) → Disk × Option SystemError
  | [] => (d, none)
  | steps :: above =>
    let settle (d : Disk) (e : SystemError) : Disk × Option SystemError :=
      (d, if d.isFolder start steps then none else some e)
    match d.createFolder start steps with
    | .ok d => (d, none)
    | .error .noEntry =>
      match d.createFirst start above with
      | (d, some e) => (d, some e)
      | (d, none) =>
        match d.createFolder start steps with
        | .ok d => (d, none)
        | .error e => settle d e
    | .error e => settle d e

/-- Creates a folder and the folders above it, as far as they are missing. -/
def createFolders (d : Disk) (path : String) : Disk × Option FileFault :=
  if path.isEmpty then (d, none)
  else
    match Path.check path with
    | .error fault => (d, some fault)
    | .ok () =>
      let (d, error) := d.createFirst (beginning path) (Path.ancestors path)
      (d, error.map .system)

end Disk

end GatewayProvisioning
