import SchemaForge.FileSystem
import SchemaForge.Output.Permission

/-! The programs that can be run on a finished file, as functions on the file system. A program
ends with a status, zero for success, or by a signal. -/

namespace SchemaForge.Program

inductive Ending where
  | status (code : Nat)
  | signal (number : Nat)
deriving Repr, DecidableEq

namespace Ending

def success : Ending := status 0
def failure : Ending := status 1

def signalNames : List String :=
  ["HUP", "INT", "QUIT", "ILL", "TRAP", "ABRT", "BUS", "FPE", "KILL", "USR1", "SEGV", "USR2", "PIPE",
    "ALRM", "TERM", "STKFLT", "CHLD", "CONT", "STOP", "TSTP", "TTIN", "TTOU", "URG", "XCPU", "XFSZ",
    "VTALRM", "PROF", "WINCH", "IO", "PWR", "SYS"]

def message : Ending → String
  | status code => "exit status: " ++ toString code
  | signal number =>
    let name := match signalNames[number - 1]? with
      | some name => " (SIG" ++ name ++ ")"
      | none => ""
    "signal: " ++ toString number ++ name

end Ending

structure Exit where
  ending : Ending
  files : FileSystem

/-- Runs an action on one operand after the other; a failure does not stop it but is told. -/
def onEach (action : FileSystem → Path → Option FileSystem) (fs : FileSystem) :
    List String → Exit
  | [] => ⟨.success, fs⟩
  | operand :: rest =>
    match action fs ⟨operand⟩ with
    | some fs => onEach action fs rest
    | none => ⟨.failure, (onEach action fs rest).files⟩

def isOption (arg : String) : Bool :=
  arg.toList.head? = some '-' && arg ≠ "-"

/-- Options and operands; after two hyphens all are operands. -/
def splitArgs : List String → List String × List String
  | [] => ([], [])
  | "--" :: rest => ([], rest)
  | arg :: rest =>
    let (options, operands) := splitArgs rest
    if isOption arg then (arg :: options, operands) else (options, arg :: operands)

def hasLetter (letter : Char) (options : List String) : Bool :=
  options.any fun o => o.toList.contains letter

def knows (letters : String) (options : List String) : Bool :=
  options.all fun o => (o.toList.drop 1).all letters.toList.contains

section Files

def optionLike? (option : String) : Option PermissionChange :=
  PermissionChange.parse? option.toList

def isDirectoryNode : FileNode → Bool
  | .directory _ => true
  | .file _ _ => false

/-- Changes permission bits. A change may be written like an option; then it counts as failed if
it leaves bits that it would take away from every class. -/
def chmod (fs : FileSystem) (args : List String) : Exit :=
  let (options, operands) := splitArgs args
  let (changes, others) := options.partition fun o => (optionLike? o).isSome
  let (change, operands) := match changes, operands with
    | o :: _, operands => (optionLike? o, operands)
    | [], mode :: operands => (PermissionChange.parse? mode.toList, operands)
    | [], [] => (none, [])
  match change with
  | none => ⟨.failure, fs⟩
  | some change =>
    if operands.isEmpty || !knows "Rcfv" others then ⟨.failure, fs⟩
    else
      let after (mask : Nat) (node : FileNode) : Nat :=
        change.apply mask (isDirectoryNode node) node.mode
      let surprising := operands.any fun operand =>
        match fs.stat ⟨operand⟩ with
        | .ok (_, node) =>
          !changes.isEmpty
            && PermissionChange.without (after PermissionChange.umask node) (after 0 node) ≠ 0
        | .error _ => false
      let done := onEach (fun fs p =>
        match fs.stat p with
        | .ok (_, node) => (fs.setMode p (after PermissionChange.umask node)).toOption
        | .error _ => none) fs operands
      if surprising then ⟨.failure, done.files⟩ else done

def rm (fs : FileSystem) (args : List String) : Exit :=
  let (options, operands) := splitArgs args
  let force := hasLetter 'f' options
  let recursive := hasLetter 'r' options || hasLetter 'R' options
  if !knows "firRdvI" options then ⟨.failure, fs⟩
  else if operands.isEmpty then ⟨if force then .success else .failure, fs⟩
  else onEach (fun fs p =>
    if fs.isDirectory p && !recursive then none
    else match fs.remove p with
      | .ok fs => some fs
      | .error .notFound => if force then some fs else none
      | .error .notADirectory => if force then some fs else none
      | .error _ => none) fs operands

def destination (fs : FileSystem) (old new : Path) : Path :=
  if fs.isDirectory new then new.join ⟨old.fileName?.getD ""⟩ else new

def mv (fs : FileSystem) (args : List String) : Exit :=
  match (splitArgs args).2 with
  | [old, new] =>
    let target := destination fs ⟨old⟩ ⟨new⟩
    if (fs.resolve ⟨old⟩).toOption = (fs.resolve target).toOption then ⟨.failure, fs⟩
    else match fs.rename ⟨old⟩ target with
      | .ok fs => ⟨.success, fs⟩
      | .error _ => ⟨.failure, fs⟩
  | _ => ⟨.failure, fs⟩

/-- Copies one file; a new copy has the permission bits of the file that new files may have. -/
def cp (fs : FileSystem) (args : List String) : Exit :=
  match (splitArgs args).2 with
  | [old, new] =>
    let target := destination fs ⟨old⟩ ⟨new⟩
    match fs.stat ⟨old⟩ with
    | .ok (source, .file mode bytes) =>
      match fs.resolve target, fs.createFile target with
      | .ok loc, .ok (_, files) =>
        if loc = source then ⟨.failure, fs⟩
        else
          let files := files.append loc bytes
          let files := if (fs.node? loc).isSome then files
            else (files.setMode target
              (PermissionChange.without (mode &&& 0o777) PermissionChange.umask)).toOption.getD files
          ⟨.success, files⟩
      | _, _ => ⟨.failure, fs⟩
    | _ => ⟨.failure, fs⟩
  | _ => ⟨.failure, fs⟩

def touch (fs : FileSystem) (args : List String) : Exit :=
  let operands := (splitArgs args).2
  if operands.isEmpty then ⟨.failure, fs⟩
  else onEach (fun fs p =>
    if fs.pathExists p then some fs else (fs.createFile p).toOption.map (·.2)) fs operands

def mkdir (fs : FileSystem) (args : List String) : Exit :=
  let (options, operands) := splitArgs args
  if operands.isEmpty then ⟨.failure, fs⟩
  else onEach (fun fs p =>
    if hasLetter 'p' options then (fs.makeDirectories p).toOption
    else (fs.makeDirectory p).toOption) fs operands

def contents (fs : FileSystem) : List String → List UInt8 × Bool
  | [] => ([], true)
  | operand :: rest =>
    let (bytes, good) := contents fs rest
    match fs.readBytes ⟨operand⟩ with
    | .ok first => (first ++ bytes, good)
    | .error _ => (bytes, false)

end Files

end SchemaForge.Program
