import SchemaForge.Error
import SchemaForge.FileSystem

/-! Getting a file ready to be written: an existing one is refused or made writable, missing
directories above it are made. Failures keep what had been done to the file system before. -/

namespace SchemaForge.FileSystem

/-- A step on the file system that may fail and still have changed it. -/
abbrev Stepped := Except GenerationError Unit × FileSystem

def relax (fs : FileSystem) (p : Path) : Stepped :=
  match fs.stat p with
  | .error kind => (.error (.io p kind), fs)
  | .ok (loc, node) => (.ok (), fs.set loc (withMode (node.mode ||| 0o220) node))

def makeParents (fs : FileSystem) (p : Path) : Stepped :=
  match p.parent? with
  | none => (.ok (), fs)
  | some parent =>
    match fs.makeDirectories parent with
    | .ok fs => (.ok (), fs)
    | .error (kind, fs) => (.error (.io parent kind), fs)

def prepare (fs : FileSystem) (p : Path) (overwrite : Bool) : Stepped :=
  if fs.pathExists p then
    if overwrite then
      match fs.relax p with
      | (.ok (), fs) => fs.makeParents p
      | failed => failed
    else (.error (.overwriteDenied p), fs)
  else fs.makeParents p

def createOutput (fs : FileSystem) (p : Path) (overwrite : Bool) :
    Except GenerationError Location × FileSystem :=
  match fs.prepare p overwrite with
  | (.error e, fs) => (.error e, fs)
  | (.ok (), fs) =>
    match fs.createFile p with
    | .ok (loc, fs) => (.ok loc, fs)
    | .error kind => (.error (.io p kind), fs)

def changeMode (fs : FileSystem) (p : Path) (mode : Nat) : Stepped :=
  match fs.setMode p mode with
  | .ok fs => (.ok (), fs)
  | .error kind => (.error (.io p kind), fs)

end SchemaForge.FileSystem
