import GatewayProvisioning.Files.Effect

/-!
Installing a file: its folder is created if it is missing, and a file that is there already gives way.
-/

namespace GatewayProvisioning.Install

/-- The effects of installing a file, in their order. -/
def effects (folder name : String) (content : Bytes) (mode : Nat) (owner : Option Owner) :
    List FileEffect :=
  let target := Path.join folder name
  [.createFolders folder, .openEmpty target mode, .write target content, .setMode target mode] ++
    owner.toList.map (.setOwner target ·)

/-- Installs a file and answers its path. -/
def file (folder name : String) (content : Bytes) (mode : Nat) (owner : Option Owner) :
    FileAction String := do
  FileAction.perform (effects folder name content mode owner)
  return Path.join folder name

/-- A file system that holds the given files, with a mode that lets everyone read. -/
def disk (files : List (String × Bytes)) : Disk :=
  files.foldl (fun d (path, content) =>
    let (folder, name) := Path.split path
    (d.run (effects folder name content 0o644 none)).1) .bare

end GatewayProvisioning.Install
