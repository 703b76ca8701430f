import SchemaForge.Namespace.Tree

/-! Walking a tree depth first: each namespace before its types, and these before the nested
namespaces. -/

namespace SchemaForge

inductive Entity where
  | type (t : CompositeType)
  | space (n : Namespace)
deriving Repr, DecidableEq

namespace Entity

def fullName : Entity → String
  | type t => t.fullName
  | space n => n.fullName

def owner : Entity → String
  | type t => t.namespaceName
  | space n => n.fullName

end Entity

namespace Tree

def preorder (t : Tree) (stack : List Namespace) : List Namespace :=
  match stack with
  | [] => []
  | n :: rest => n :: preorder t (t.childrenOf n ++ rest)
termination_by total t.extent stack
decreasing_by
  have hbelow := t.extent_childrenOf_lt n
  simp only [total_append, total_cons]
  omega

def spaces (t : Tree) : List Namespace :=
  t.preorder t.root?.toList

def typesOf (t : Tree) (n : Namespace) : List (Entity × Path) :=
  n.types.filterMap fun (key, path) => (t.catalog.get? key).map fun ty => (.type ty, path)

def types (t : Tree) : List (Entity × Path) :=
  t.spaces.flatMap t.typesOf

def namespaces (t : Tree) : List (Entity × Path) :=
  t.spaces.map fun n => (.space n, n.outputPath)

def entities (t : Tree) : List (Entity × Path) :=
  t.spaces.flatMap fun n => (.space n, n.outputPath) :: t.typesOf n

end Tree

end SchemaForge
