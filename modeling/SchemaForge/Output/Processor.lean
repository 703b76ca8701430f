import SchemaForge.Output.Destination
import SchemaForge.Output.Shell

/-! What happens to a finished file: processors act on it one after the other, and each may leave
it under another path. -/

namespace SchemaForge

structure FileProcessor where
  name : String
  /-- The path of the file afterwards, and the files left even if it fails. -/
  process : FileSystem → Path → Except GenerationError Path × FileSystem

namespace FileProcessor

def setMode (mode : Nat) : FileProcessor where
  name := "set-file-mode"
  process fs p :=
    match fs.changeMode p mode with
    | (.ok (), fs) => (.ok p, fs)
    | (.error e, fs) => (.error e, fs)

/-- Runs a program with the path as its last argument; any ending but success is a failure if it is
checked. -/
def program (program : String) (args : List String) (check : Bool) : FileProcessor where
  name := "run-program"
  process fs p :=
    match Program.run? fs program (args ++ [p.text]) with
    | none => (.error (.processorFailed program p "No such file or directory (os error 2)"), fs)
    | some exit =>
      if check && exit.ending ≠ .success then
        (.error (.processorFailed program p ("exited with " ++ exit.ending.message)), exit.files)
      else (.ok p, exit.files)

def rename (suffix : String) : FileProcessor where
  name := "rename"
  process fs p :=
    match fs.rename p ⟨p.text ++ suffix⟩ with
    | .ok fs => (.ok ⟨p.text ++ suffix⟩, fs)
    | .error kind => (.error (.io p kind), fs)

def runAll (fs : FileSystem) (p : Path) : List FileProcessor → Except GenerationError Path × FileSystem
  | [] => (.ok p, fs)
  | processor :: rest =>
    match processor.process fs p with
    | (.ok p, fs) => runAll fs p rest
    | (.error e, fs) => (.error e, fs)

end FileProcessor

end SchemaForge
