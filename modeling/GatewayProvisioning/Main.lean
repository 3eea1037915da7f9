import GatewayProvisioning.CommandLine.Run
import GatewayProvisioning.Http.Wire

/-!
The program on its own: it takes the files that a command may look at from the system, runs the
command, and puts the files that it changed back. It has no access to a network, so every request is
answered as on a network on which nothing is reached.
-/

namespace GatewayProvisioning.Program

/-- The name of the program. -/
def name : String := "edgeproxy"

/-- The version of the program. -/
def version : String := "1.0.1"

/-- The help of the program. -/
def help : String :=
  "Usage: " ++ name ++ " [-c FILE] [" ++ "|".intercalate CommandLine.grammar.commands ++ "]"

/-- The present time, as the system notes it on a new file. -/
def presentTime : IO Int := do
  let (_, path) ← IO.FS.createTempFile
  let noted ← path.metadata
  IO.FS.removeFile path
  return noted.modified.sec

/-- The content of a file, if it can be read. -/
def content? (path : String) : IO (Option (String × Bytes)) :=
  try
    let bytes ← IO.FS.readBinFile path
    return some (path, bytes.toList)
  catch _ => return none

/-- The readable ones of the files at some paths. -/
def takeFiles (paths : List String) : IO (List (String × Bytes)) := do
  return (← paths.eraseDups.mapM content?).filterMap id

/-- The path of a location. -/
def pathOf (l : Location) : String :=
  match l with
  | "/" :: names => "/" ++ "/".intercalate names
  | names => "/".intercalate names

/-- The rights of a digit of a mode. -/
def rights (digit : Nat) : IO.AccessRight where
  read := digit / 4 % 2 = 1
  write := digit / 2 % 2 = 1
  execution := digit % 2 = 1

/-- Puts an entry that has changed into the system. -/
def putEntry (before : Disk) (l : Location) (e : Entry) : IO Unit := do
  if before.get? l != some e then
    match e with
    | .folder => IO.FS.createDirAll (pathOf l)
    | .file bytes mode =>
      IO.FS.writeBinFile (pathOf l) (ByteArray.mk bytes.toArray)
      IO.setAccessRights (pathOf l)
        { user := rights (mode / 64), group := rights (mode / 8), other := rights mode }
    | .full => pure ()

/-- Runs a command line. -/
def run (line : CommandLine) : IO Outcome := do
  let configFiles ← takeFiles [line.config]
  let routes ← IO.getEnv Configuration.routesVariable
  let level ← IO.getEnv Configuration.logLevelVariable
  let environment (name : String) : Option String :=
    if name = Configuration.routesVariable then routes
    else if name = Configuration.logLevelVariable then level
    else none
  let files ← match line.command, CommandLine.configuration (Install.disk configFiles) line.config with
    | some command, .ok c => takeFiles (command.files c)
    | _, _ => pure []
  let disk := Install.disk (configFiles ++ files)
  let dialogue := line.run environment (← presentTime) disk
  let (_, _, result) := dialogue.serve (fun s request => (Wire.unreached request, s)) 1000000 [] ()
  match result with
  | some (.ok outcome) =>
    for (l, e) in outcome.disk.entries do
      putEntry disk l e
    return outcome
  | _ => return CommandLine.failed (.failure (.unreachable "" "")) disk

/-- What a report looks like. -/
def text : Report → String
  | .nothing => ""
  | .help => help ++ "\n"
  | .user consumer token => (userJson consumer token).pretty ++ "\n"
  | .token token => token ++ "\n"

end GatewayProvisioning.Program

open GatewayProvisioning in
/-- The program. -/
def main (args : List String) : IO UInt32 := do
  match CommandLine.read args with
  | .error .help => do
    IO.println Program.help
    return 0
  | .error .version => do
    IO.println (Program.name ++ " " ++ Program.version)
    return 0
  | .error _ => do
    IO.eprintln Program.help
    return 2
  | .ok line => do
    let outcome ← Program.run line
    IO.print (Program.text outcome.report)
    match outcome.error with
    | some fault => IO.eprintln ("error: " ++ fault.message)
    | none => pure ()
    return UInt32.ofNat outcome.exit
