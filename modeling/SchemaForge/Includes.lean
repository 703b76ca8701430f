import SchemaForge.Language.Basic
import SchemaForge.Layout
import SchemaForge.Namespace.Tree

/-! What the file of a type has to include: standard headers of the language, support headers,
and the files of the types it refers to. -/

namespace SchemaForge

structure IncludeScope where
  tree : Tree
  layout : Layout
  language : Language
  support : List (List Path.Component) := []

namespace IncludeScope

def sortedTexts (items : List String) : List String :=
  Ordered.ofList Ordered.byText items

def quote (scope : IncludeScope) (path : String) : String :=
  if scope.language.rules.options.systemIncludes then "<" ++ path ++ ">" else "\"" ++ path ++ "\""

/-- The path of a type's file below the output directory; a type without a file in this tree is
taken to be laid out the same way. -/
def relativePath (scope : IncludeScope) (start : String) (key : TypeKey) : String :=
  match scope.tree.pathOf start key with
  | .ok path => Path.slashed ((path.relativeTo? scope.layout.outputDir).getD path.components)
  | .error _ => Path.slashed (scope.layout.relativeTypePath key).components

/-- The type whose file holds a type: its service for a service's request or response. -/
def fileOwner (scope : IncludeScope) (key : TypeKey) : TypeKey :=
  ((scope.tree.catalog.get? key).bind (·.parentService)).getD key

def includesOf (scope : IncludeScope) (t : CompositeType) : List String :=
  let deps := scope.tree.catalog.directDependencies [t]
  let owners := (deps.types.map scope.fileOwner).filter fun key => key ≠ t.key
  let paths := owners.map (scope.relativePath t.namespaceName) ++ scope.support.map Path.slashed
  let system := (scope.language.includes deps).map fun i => "<" ++ i ++ ">"
  sortedTexts (system ++ paths.map scope.quote)

end IncludeScope

end SchemaForge
