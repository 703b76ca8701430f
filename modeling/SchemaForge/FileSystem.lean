import SchemaForge.Path
import SchemaForge.Rules.Error
import SchemaForge.Text.Utf8

/-! A file system as a value: directories and files with permission bits at locations below the
root, links to them, and a working directory from which relative paths start. A path is followed
segment by segment, and every segment on the way has to lead to a directory. All may be read and
searched; to write a file, or to make or remove a name in a directory, takes the owner's permission
to write it. -/

namespace SchemaForge

inductive FileNode where
  | directory (mode : Nat)
  | file (mode : Nat) (bytes : List UInt8)
deriving Repr, DecidableEq

def FileNode.mode : FileNode → Nat
  | directory mode => mode
  | file mode _ => mode

/-- Whether the owner may write a file, or change the names in a directory. -/
def FileNode.isWritable (node : FileNode) : Bool :=
  node.mode &&& 0o200 != 0

/-- The names on the way from the root. -/
abbrev Location := List String

inductive FileLink where
  /-- A symbolic link, for what its path leads to from the directory that the link is in. -/
  | symbolic (target : Path)
  /-- A further name of the file at a location. -/
  | further (file : Location)
deriving Repr, DecidableEq

structure FileSystem where
  cwd : Location := ["work"]
  entries : List (Location × FileNode) := [(["work"], .directory 0o755)]
  links : List (Location × FileLink) := []
deriving Repr, DecidableEq

namespace FileSystem

def directoryMode : Nat := 0o755
def fileMode : Nat := 0o644

def node? (fs : FileSystem) (loc : Location) : Option FileNode :=
  if loc = [] then some (.directory directoryMode) else fs.entries.lookup loc

def link? (fs : FileSystem) (loc : Location) : Option FileLink :=
  fs.links.lookup loc

def setEntries (loc : Location) (node : FileNode) :
    List (Location × FileNode) → List (Location × FileNode)
  | [] => [(loc, node)]
  | (l, n) :: rest => if l = loc then (loc, node) :: rest else (l, n) :: setEntries loc node rest

def set (fs : FileSystem) (loc : Location) (node : FileNode) : FileSystem :=
  { fs with entries := setEntries loc node fs.entries }

theorem lookup_setEntries_self (loc : Location) (node : FileNode)
    (entries : List (Location × FileNode)) :
    (setEntries loc node entries).lookup loc = some node := by
  induction entries with
  | nil => simp [setEntries]
  | cons e rest ih =>
    obtain ⟨l, n⟩ := e
    by_cases h : l = loc
    · simp [setEntries, h]
    · have hl : (loc == l) = false := beq_eq_false_iff_ne.mpr (Ne.symm h)
      simp only [setEntries, if_neg h, List.lookup_cons, hl]
      exact ih

theorem lookup_setEntries_of_ne {loc other : Location} (node : FileNode)
    (entries : List (Location × FileNode)) (h : other ≠ loc) :
    (setEntries loc node entries).lookup other = entries.lookup other := by
  have ho : (other == loc) = false := beq_eq_false_iff_ne.mpr h
  induction entries with
  | nil => simp only [setEntries, List.lookup_cons, ho]
  | cons e rest ih =>
    obtain ⟨l, n⟩ := e
    by_cases hl : l = loc
    · subst hl
      simp only [setEntries, if_true, List.lookup_cons, ho]
    · simp only [setEntries, if_neg hl, List.lookup_cons]
      rw [ih]

theorem node?_set_of_ne (fs : FileSystem) {loc other : Location} (node : FileNode)
    (h : other ≠ loc) : (fs.set loc node).node? other = fs.node? other := by
  simp only [node?, set, lookup_setEntries_of_ne node fs.entries h]

def nameLimit : Nat := 255
def pathLimit : Nat := 4095

def linkLimit : Nat := 40

/-- One segment further from a directory. What it leads to need not exist, and is not followed if it
is a link. -/
def enter (fs : FileSystem) (loc : Location) (segment : String) : Except IoKind Location :=
  match fs.node? loc with
  | none => .error .notFound
  | some (.file _ _) => .error .notADirectory
  | some (.directory _) =>
    if Path.isVoid segment then .ok loc
    else if segment = ".." then .ok loc.dropLast
    else if nameLimit < segment.utf8ByteSize then .error .invalidFilename
    else .ok (loc ++ [segment])

def linkStart (loc : Location) (target : Path) : Location :=
  if target.isAbsolute then [] else loc.dropLast

/-- Follows segments up to the first symbolic link, where `jump` goes on. -/
def walk (fs : FileSystem) (jump : Location → List String → Except IoKind Location) :
    Location → List String → Except IoKind Location
  | loc, [] => .ok loc
  | loc, segment :: rest => do
    let next ← fs.enter loc segment
    match fs.link? next with
    | none => walk fs jump next rest
    | some (.further file) => walk fs jump file rest
    | some (.symbolic target) => jump (linkStart next target) (target.segments ++ rest)

/-- Follows segments from a location, over so many symbolic links; the last need not exist. -/
def follow (fs : FileSystem) : (links : Nat) → Location → List String → Except IoKind Location
  | 0 => fs.walk fun _ _ => .error .other
  | links + 1 => fs.walk (follow fs links)

def checkText (p : Path) : Except IoKind Unit :=
  if p.text.isEmpty then .error .notFound
  else if p.text.toList.contains '\x00' then .error .invalidInput
  else if pathLimit < p.text.utf8ByteSize then .error .invalidFilename
  else .ok ()

def start (fs : FileSystem) (p : Path) : Location :=
  if p.isAbsolute then [] else fs.cwd

def resolve (fs : FileSystem) (p : Path) : Except IoKind Location := do
  checkText p
  fs.follow linkLimit (fs.start p) p.segments

/-- Where the name at the end of a path stands, also if it is a link. -/
def place (fs : FileSystem) (p : Path) : Except IoKind Location := do
  checkText p
  let directory ← fs.follow linkLimit (fs.start p) p.segments.dropLast
  fs.enter directory (p.segments.getLast?.getD "")

def stat (fs : FileSystem) (p : Path) : Except IoKind (Location × FileNode) := do
  let loc ← fs.resolve p
  match fs.node? loc with
  | some node => .ok (loc, node)
  | none => .error .notFound

def pathExists (fs : FileSystem) (p : Path) : Bool :=
  (fs.stat p).isOk

def isDirectory (fs : FileSystem) (p : Path) : Bool :=
  match fs.stat p with
  | .ok (_, .directory _) => true
  | _ => false

def isFile (fs : FileSystem) (p : Path) : Bool :=
  match fs.stat p with
  | .ok (_, .file _ _) => true
  | _ => false

def readBytes (fs : FileSystem) (p : Path) : Except IoKind (List UInt8) := do
  match ← fs.stat p with
  | (_, .file _ bytes) => .ok bytes
  | (_, .directory _) => .error .isADirectory

def readText (fs : FileSystem) (p : Path) : Except IoKind String := do
  match Utf8.decode? (← fs.readBytes p) with
  | some cs => .ok (String.ofList cs)
  | none => .error .invalidData

def names (fs : FileSystem) : List Location :=
  fs.entries.map (·.1) ++ fs.links.map (·.1)

def listDirectory (fs : FileSystem) (p : Path) : Except IoKind (List String) := do
  match ← fs.stat p with
  | (loc, .directory _) =>
    .ok (fs.names.filterMap fun l =>
      if l.length = loc.length + 1 && l.dropLast = loc then l.getLast? else none)
  | (_, .file _ _) => .error .notADirectory

def trimSlashes (p : Path) : Path :=
  match p.text.toList.reverse.dropWhile (· == '/') with
  | [] => p
  | cs => ⟨String.ofList cs.reverse⟩

def isTaken (fs : FileSystem) (loc : Location) : Bool :=
  (fs.node? loc).isSome || (fs.link? loc).isSome

def mayChange (fs : FileSystem) (loc : Location) : Bool :=
  (fs.node? loc.dropLast).any FileNode.isWritable

def makeDirectory (fs : FileSystem) (p : Path) : Except IoKind FileSystem := do
  let loc ← fs.place (trimSlashes p)
  if fs.isTaken loc then .error .alreadyExists
  else if fs.mayChange loc then .ok (fs.set loc (.directory directoryMode))
  else .error .permissionDenied

/-- Makes a directory and those above it that are missing; at most `depth` of them. -/
def makeDirectoriesTo : (depth : Nat) → FileSystem → Path → Except (IoKind × FileSystem) FileSystem
  | 0, fs, _ => .error (.notFound, fs)
  | depth + 1, fs, p =>
    if p.components.isEmpty && !p.isAbsolute then .ok fs
    else match fs.makeDirectory p with
      | .ok fs => .ok fs
      | .error .notFound =>
        match p.parent? with
        | none => .error (.other, fs)
        | some parent => do
          let fs ← makeDirectoriesTo depth fs parent
          match fs.makeDirectory p with
          | .ok fs => .ok fs
          | .error kind => if fs.isDirectory p then .ok fs else .error (kind, fs)
      | .error kind => if fs.isDirectory p then .ok fs else .error (kind, fs)

/-- Makes a directory with all above it; a failure keeps what had been made. -/
def makeDirectories (fs : FileSystem) (p : Path) : Except (IoKind × FileSystem) FileSystem :=
  makeDirectoriesTo (p.segments.length + 1) fs p

def createFile (fs : FileSystem) (p : Path) : Except IoKind (Location × FileSystem) :=
  if p.text.toList.getLast? = some '/' then
    match fs.resolve ((trimSlashes p).parent?.getD ⟨"."⟩) with
    | .error kind => if p.parent? = some ⟨""⟩ then .error .isADirectory else .error kind
    | .ok _ => .error .isADirectory
  else do
    let loc ← fs.resolve p
    match fs.node? loc with
    | some (.directory _) => .error .isADirectory
    | some (.file mode bytes) =>
      if (FileNode.file mode bytes).isWritable then .ok (loc, fs.set loc (.file mode []))
      else .error .permissionDenied
    | none =>
      if fs.mayChange loc then .ok (loc, fs.set loc (.file fileMode []))
      else .error .permissionDenied

def append (fs : FileSystem) (loc : Location) (bytes : List UInt8) : FileSystem :=
  match fs.node? loc with
  | some (.file mode old) => fs.set loc (.file mode (old ++ bytes))
  | _ => fs

def withMode (mode : Nat) : FileNode → FileNode
  | .directory _ => .directory (mode % 0o10000)
  | .file _ bytes => .file (mode % 0o10000) bytes

def setMode (fs : FileSystem) (p : Path) (mode : Nat) : Except IoKind FileSystem := do
  let (loc, node) ← fs.stat p
  .ok (fs.set loc (withMode mode node))

def isAtOrBelow (base loc : Location) : Bool :=
  base.isPrefixOf loc

/-- Where a file stands once some names are gone: under a further name if its own is gone. -/
def placeWithout (fs : FileSystem) (gone : Location → Bool) (loc : Location) : Location :=
  let others := fs.links.filter fun (name, link) => link = .further loc && !gone name
  if gone loc then (others.head?.map (·.1)).getD loc else loc

/-- Takes names away. A file stays as long as it has a name. -/
def without (fs : FileSystem) (gone : Location → Bool) : FileSystem :=
  let place := fs.placeWithout gone
  { fs with
    entries := fs.entries.filterMap fun (loc, node) =>
      if gone (place loc) then none else some (place loc, node)
    links := fs.links.filterMap fun (loc, link) =>
      if gone loc then none
      else match link with
        | .symbolic target => some (loc, .symbolic target)
        | .further file => if place file = loc then none else some (loc, .further (place file)) }

def remove (fs : FileSystem) (p : Path) : Except IoKind FileSystem := do
  let loc ← fs.place p
  if !fs.isTaken loc then .error .notFound
  else if fs.mayChange loc then .ok (fs.without (isAtOrBelow loc))
  else .error .permissionDenied

/-- Puts another location in place of one, for all that stands there and below. -/
def moved (source target loc : Location) : Location :=
  if isAtOrBelow source loc then target ++ loc.drop source.length else loc

def movedLink (source target : Location) : FileLink → FileLink
  | .symbolic path => .symbolic path
  | .further file => .further (moved source target file)

def standing (fs : FileSystem) (loc : Location) : Location :=
  match fs.link? loc with
  | some (.further file) => file
  | _ => loc

/-- Moves a file, a link or a directory to another path, in place of what may stand there. -/
def rename (fs : FileSystem) (old new : Path) : Except IoKind FileSystem := do
  let source ← fs.place old
  let target ← fs.place new
  let isDirectory := (fs.node? source) matches some (.directory _)
  if !fs.isTaken source then .error .notFound
  else if fs.standing source = fs.standing target then .ok fs
  else if isDirectory && isAtOrBelow source target then .error .invalidInput
  else
    let blocked : Option IoKind := match fs.node? target with
      | some (.directory _) =>
        if !isDirectory then some .isADirectory
        else if fs.names.any fun loc => isAtOrBelow target loc && loc ≠ target then
          some .directoryNotEmpty
        else none
      | _ => if isDirectory && fs.isTaken target then some .notADirectory else none
    match blocked with
    | some kind => .error kind
    | none =>
      if fs.mayChange source && fs.mayChange target then
        let kept := fs.without (· == target)
        .ok { kept with
          entries := kept.entries.map fun (loc, node) => (moved source target loc, node)
          links := kept.links.map fun (loc, link) =>
            (moved source target loc, movedLink source target link) }
      else .error .permissionDenied

def writeFile (fs : FileSystem) (p : Path) (bytes : List UInt8) : Except IoKind FileSystem := do
  let fs ← match p.parent? with
    | some parent => match fs.makeDirectories parent with
      | .ok fs => .ok fs
      | .error (kind, _) => .error kind
    | none => .ok fs
  let (loc, fs) ← fs.createFile p
  .ok (fs.append loc bytes)

def below (fs : FileSystem) (p : Path) : List (String × FileNode) :=
  let further := fs.links.filterMap fun (loc, link) =>
    match link with
    | .symbolic _ => none
    | .further file => (fs.node? file).map (loc, ·)
  match fs.stat p with
  | .ok (loc, .directory _) =>
    (fs.entries ++ further).filterMap fun (l, node) =>
      if isAtOrBelow loc l && l ≠ loc then
        some (Text.joinStrings "/" (l.drop loc.length), node)
      else none
  | _ => []

end FileSystem

end SchemaForge
