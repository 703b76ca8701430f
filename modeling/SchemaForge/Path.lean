import SchemaForge.Text.Dotted

/-! Paths as they are written. Joining does not normalise: an absolute second path replaces the
first, an empty one leaves a trailing slash. Components leave out what changes nothing: repeated
slashes and inner dots. -/

namespace SchemaForge

structure Path where
  text : String
deriving Repr, DecidableEq

namespace Path

inductive Component where
  | root
  | current
  | parent
  | normal (name : String)
deriving Repr, DecidableEq

def joinText (p q : List Char) : List Char :=
  if q.head? = some '/' then q
  else if p.isEmpty || p.getLast? = some '/' then p ++ q
  else p ++ '/' :: q

def join (p q : Path) : Path :=
  ⟨String.ofList (joinText p.text.toList q.text.toList)⟩

def ofParts (parts : List String) : Path :=
  parts.foldl (fun p part => p.join ⟨part⟩) ⟨""⟩

def segments (p : Path) : List String :=
  (Text.splitAt '/' p.text.toList).map String.ofList

def isAbsolute (p : Path) : Bool :=
  p.text.toList.head? = some '/'

/-- A segment that is no component where it stands. -/
def isVoid (segment : String) : Bool :=
  segment == "" || segment == "."

def component? (segment : String) : Option Component :=
  if isVoid segment then none
  else if segment == ".." then some .parent
  else some (.normal segment)

def components (p : Path) : List Component :=
  match p.segments with
  | [] => []
  | first :: rest =>
    let lead :=
      if p.isAbsolute then [.root]
      else if first == "." then [.current]
      else (component? first).toList
    lead ++ rest.filterMap component?

/-- Drops segments at the end that are no components, but not the first. -/
def trimSegments : List String → List String
  | [] => []
  | first :: rest => first :: (rest.reverse.dropWhile isVoid).reverse

def ofSegments (segments : List String) : Path :=
  match segments with
  | [""] => ⟨"/"⟩
  | _ => ⟨Text.joinStrings "/" segments⟩

def parent? (p : Path) : Option Path :=
  if p.components.isEmpty || p.components = [.root] then none
  else match trimSegments p.segments with
    | [] => none
    | [_] => some ⟨""⟩
    | segments => some (ofSegments (trimSegments segments.dropLast))

def fileName? (p : Path) : Option String :=
  match p.components.getLast? with
  | some (.normal name) => some name
  | _ => none

/-- A file name's stem and extension; a dot at the start begins no extension. -/
def splitName (name : String) : String × Option String :=
  match Text.splitLast? '.' name.toList with
  | none => (name, none)
  | some ([], _) => (name, none)
  | some (stem, ext) => if name == ".." then (name, none) else (String.ofList stem, some (String.ofList ext))

def relativeTo? (p base : Path) : Option (List Component) :=
  if base.components.isPrefixOf p.components then some (p.components.drop base.components.length)
  else none

def slashed (components : List Component) : String :=
  Text.joinStrings "/" (components.filterMap fun
    | .normal name => some name
    | _ => none)

def display (components : List Component) : String :=
  (ofParts (components.map fun
    | .root => "/"
    | .current => "."
    | .parent => ".."
    | .normal name => name)).text

end Path

end SchemaForge
