import SchemaForge.Layout
import SchemaForge.Namespace.Tree

/-! Building the tree of a run. The root is named after a directory. Every namespace of a type below
it gets a node, then every namespace above one that has a node, and then the nodes are linked. Each
node needs a directory of definitions. -/

namespace SchemaForge

structure Site where
  hasDir : Path → Bool
  /-- The directory that holds the directory of the root namespace. -/
  sourceRoot : Path
  layout : Layout

namespace Site

def sourceDir (s : Site) (name : String) : Path :=
  Path.ofParts (s.sourceRoot.text :: Text.components name)

def outputFolder (s : Site) (name : String) : Path :=
  s.layout.outputDir.join (s.layout.relativeFolder (Text.components name))

def namespaceOf (s : Site) (name : String) : Namespace where
  fullName := name
  encodedName := Text.joinStrings "." (s.layout.encodeAll (Text.components name))
  sourceDir := s.sourceDir name
  outputFolder := s.outputFolder name
  outputPath := (s.outputFolder name).join ⟨s.layout.namespaceFileName⟩

end Site

namespace Tree

/-- A namespace is the root or below it if its name is the root's or goes on from it after a dot. -/
def isWithin (root space : String) : Bool :=
  space = root || (root.toList ++ ['.']).isPrefixOf space.toList

def hasNode (nodes : List Namespace) (name : String) : Bool :=
  nodes.any (·.fullName = name)

def update (nodes : List Namespace) (name : String)
    (change : (n : Namespace) → n.fullName = name → Namespace) : List Namespace :=
  nodes.map fun n => if h : n.fullName = name then change n h else n

def ensure (s : Site) (nodes : List Namespace) (name : String) :
    Except GenerationError (List Namespace) :=
  if hasNode nodes name then .ok nodes
  else if s.hasDir (s.sourceDir name) then .ok (nodes ++ [s.namespaceOf name])
  else .error (.sourceNotFound name (s.sourceDir name))

def isPlaced (nodes : List Namespace) (name : String) (key : TypeKey) : Bool :=
  nodes.any fun n => n.fullName = name && (n.pathFor? key).isSome

/-- Places a type in its namespace if it is below the root and no part of a service. -/
def place (s : Site) (root : String) (nodes : List Namespace) (t : CompositeType) :
    Except GenerationError (List Namespace) :=
  if isWithin root t.namespaceName && t.parentService.isNone then do
    let nodes ← ensure s nodes t.namespaceName
    if isPlaced nodes t.namespaceName t.key then
      .error (.configuration ("type '" ++ t.key.display ++ "' was placed twice"))
    else
      .ok (update nodes t.namespaceName fun n _ => n.addType t.key (s.layout.typePath t.key))
  else .ok nodes

def ensureUntilKnown (s : Site) (nodes : List Namespace) :
    List String → Except GenerationError (List Namespace)
  | [] => .ok nodes
  | name :: rest =>
    if hasNode nodes name then .ok nodes
    else do
      let nodes ← ensure s nodes name
      ensureUntilKnown s nodes rest

/-- Makes nodes for the names above one, up to the nearest that has one. -/
def addAncestors (s : Site) (nodes : List Namespace) (name : String) :
    Except GenerationError (List Namespace) :=
  ensureUntilKnown s nodes (Text.ancestors name)

def link (s : Site) (nodes : List Namespace) (name : String) :
    Except GenerationError (List Namespace) :=
  match hparent : Text.parentName? name with
  | none => .ok nodes
  | some parent => do
    let nodes ← ensure s nodes parent
    let nodes := update nodes parent fun n hn => n.addChild name (hparent.trans (hn ▸ rfl))
    .ok (update nodes name fun n hn => n.setParent parent (hn ▸ hparent))

def forEachNode (step : List Namespace → String → Except GenerationError (List Namespace))
    (nodes : List Namespace) : Except GenerationError (List Namespace) :=
  (nodes.map (·.fullName)).foldlM step nodes

def buildNodes (s : Site) (catalog : Catalog) (root : String) :
    Except GenerationError (List Namespace) := do
  let nodes ← ensure s [] root
  let nodes ← catalog.types.foldlM (place s root) nodes
  let nodes ← forEachNode (addAncestors s) nodes
  forEachNode (link s) nodes

def build (hasDir : Path → Bool) (catalog : Catalog) (rootDir : Path) (layout : Layout) :
    Except GenerationError Tree :=
  match rootDir.fileName? with
  | none => .error (.configuration ("cannot derive a root namespace name from " ++ rootDir.text))
  | some root => do
    let nodes ← buildNodes ⟨hasDir, rootDir.parent?.getD ⟨""⟩, layout⟩ catalog root
    .ok { catalog, nodes, rootName := root }

end Tree

end SchemaForge
