import GatewayProvisioning.Files.Disk

/-!
What is done to a file system, one effect after the other. The first effect that fails ends a row of
effects; what was done before stays done, also a part of the effect that failed.
-/

namespace GatewayProvisioning

/-- One thing that is done to a file system. -/
inductive FileEffect where
  | createFolders (path : String)
  | openEmpty (path : String) (mode : Nat)
  | write (path : String) (content : Bytes)
  | setMode (path : String) (mode : Nat)
  | setOwner (path : String) (owner : Owner)

/-- The path that an effect is about. -/
def FileEffect.path : FileEffect → String
  | .createFolders path => path
  | .openEmpty path _ => path
  | .write path _ => path
  | .setMode path _ => path
  | .setOwner path _ => path

namespace Disk

/-- The location that steps lead to, where a file may have to be created. -/
def walkNew (d : Disk) (start : Location) (steps : List String) (endsInSlash : Bool) :
    Except SystemError Location := do
  let folder ← d.walk start (steps.dropLast ++ ["."])
  match steps.getLast? with
  | none => throw .isFolder
  | some name =>
    if endsInSlash ∨ name = "." ∨ name = ".." then throw .isFolder
    d.step folder name

/-- The location that a path leads to, where a file may have to be created. -/
def locateNew (d : Disk) (path : String) : Except FileFault Location := do
  Path.check path
  (d.walkNew (beginning path) (Path.steps path) (Path.endsInSlash path)).mapError .system

/-- The mode of a file that was opened: the one that it had, or for a new file the one that is asked
for, without the bits that a new file does not get. -/
def openedMode (d : Disk) (mode : Nat) : Option Entry → Nat
  | some (.file _ before) => before
  | _ => mode ^^^ (mode &&& d.mask)

/-- Opens a file that is empty from then on. -/
def openEmpty (d : Disk) (path : String) (mode : Nat) : Except FileFault Disk := do
  let l ← d.locateNew path
  if d.get? l = some .folder then throw (.system .isFolder)
  (d.allow (.openEmpty l mode)).mapError .system
  if d.get? l = some .full then return d
  return d.put l (.file [] (d.openedMode mode (d.get? l)))

/-- Changes what a path leads to, as far as that is possible. -/
def change (d : Disk) (path : String) (f : Location → Entry → Entry × Option SystemError) :
    Disk × Option FileFault :=
  match d.locate path with
  | .error fault => (d, some fault)
  | .ok l =>
    match d.get? l with
    | none => (d, some (.system .noEntry))
    | some e =>
      let (changed, error) := f l e
      (d.put l changed, error.map .system)

/-- A disk after an effect, and why the effect failed if it did. -/
def perform (d : Disk) : FileEffect → Disk × Option FileFault
  | .createFolders path => d.createFolders path
  | .openEmpty path mode =>
    match d.openEmpty path mode with
    | .ok d => (d, none)
    | .error fault => (d, some fault)
  | .write path content =>
    d.change path fun l e => e.withContent content (d.refusal? (.write l content))
  | .setMode path mode =>
    d.change path fun l e => e.unlessRefused (d.refusal? (.setMode l mode)) (e.withMode mode)
  | .setOwner path owner =>
    d.change path fun l e => e.unlessRefused (d.refusal? (.setOwner l owner)) e.withOwner

/-- A disk after a row of effects, up to the first that fails. -/
def run (d : Disk) : List FileEffect → Disk × Except Failure Unit
  | [] => (d, .ok ())
  | e :: rest =>
    match d.perform e with
    | (d, none) => d.run rest
    | (d, some fault) => (d, .error (.file e.path fault))

end Disk

/-- Something that is done to a file system and may fail on the way. -/
abbrev FileAction := ExceptT Failure (StateM Disk)

namespace FileAction

/-- Reads a file. -/
def read (path : String) : FileAction Bytes := fun d =>
  (FileSource.read d.read path, d)

/-- Does a row of effects. -/
def perform (effects : List FileEffect) : FileAction Unit := fun d =>
  let (d, result) := d.run effects
  (result, d)

end FileAction

end GatewayProvisioning
