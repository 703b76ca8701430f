import SchemaForge.Cli.Run

/-! The command line program: files are read into a file system value, the command runs on it, and
what it changed is written back. -/

namespace SchemaForge.Main

def locate (cwd : Location) (path : String) : Location :=
  let start := if (Path.mk path).isAbsolute then [] else cwd
  (Path.mk path).segments.foldl (fun loc segment =>
    if Path.isVoid segment then loc
    else if segment = ".." then loc.dropLast
    else loc ++ [segment]) start

def pathOf (loc : Location) : String :=
  "/" ++ Text.joinStrings "/" loc

partial def loadBelow (fs : FileSystem) (loc : Location) : IO FileSystem := do
  let path := (← IO.currentDir) / pathOf loc
  if ← path.isDir then
    let fs := fs.set loc (.directory FileSystem.directoryMode)
    (← path.readDir).foldlM (fun fs entry => loadBelow fs (loc ++ [entry.fileName])) fs
  else if ← path.pathExists then
    let content ← IO.FS.readBinFile path
    pure (fs.set loc (.file FileSystem.fileMode content.toList))
  else pure fs

def loadAbove (fs : FileSystem) (loc : Location) : IO FileSystem :=
  (List.range loc.length).foldlM (fun fs n => do
    let above := loc.take n
    let path := (← IO.currentDir) / pathOf above
    if above.isEmpty || (fs.node? above).isSome then pure fs
    else if ← path.isDir then pure (fs.set above (.directory FileSystem.directoryMode))
    else pure fs) fs

def namedPaths (args : List String) : List String :=
  match Cli.parse args with
  | .ok (.generate types root scan) =>
    let request : Cli.Request := ⟨⟨types⟩, ⟨root⟩, scan⟩
    types :: root :: request.outputDir.text
      :: scan.values .languageConfig ++ scan.values .templates
  | _ => []

def load (args : List String) : IO FileSystem := do
  let cwd := locate [] (← IO.currentDir).toString
  let locations := cwd :: (namedPaths args).map (locate cwd)
  let fs ← locations.foldlM loadAbove { cwd, entries := [(cwd, .directory FileSystem.directoryMode)] }
  (locations.drop 1).foldlM loadBelow fs

def permissions (mode : Nat) : IO.FileRight :=
  let right (bits : Nat) : IO.AccessRight :=
    { read := bits.testBit 2, write := bits.testBit 1, execution := bits.testBit 0 }
  { user := right (mode / 64), group := right (mode / 8), other := right mode }

def store (before after : FileSystem) : IO Unit := do
  for (loc, node) in after.entries do
    if before.node? loc ≠ some node then
      match node with
      | .directory _ => IO.FS.createDirAll (pathOf loc)
      | .file mode content =>
        IO.FS.writeBinFile (pathOf loc) ⟨content.toArray⟩
        if mode ≠ FileSystem.fileMode then
          IO.setAccessRights (pathOf loc) (permissions mode)
  for (loc, node) in before.entries do
    match node, after.node? loc with
    | .file _ _, none => IO.FS.removeFile (pathOf loc)
    | _, _ => pure ()

def now : IO Int :=
  IO.FS.withTempFile fun _ path => do
    pure (← path.metadata).modified.sec

def mistakeText (args : List String) : Option String :=
  match Cli.parse args with
  | .error (.mistake e) => some e.message
  | _ => none

end SchemaForge.Main

open SchemaForge in
def main (args : List String) : IO UInt32 := do
  let files ← Main.load args
  let outcome := Cli.run files (← Main.now) args
  Main.store files outcome.files
  (← IO.getStdout).putStr outcome.output
  for line in (Main.mistakeText args).toList ++ outcome.causes do
    (← IO.getStderr).putStrLn line
  pure (UInt32.ofNat outcome.status)
