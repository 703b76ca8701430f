import SchemaForge.Namespace.Walk

/-! Kinds of entities. A template may be written for a kind or for one of its bases. -/

namespace SchemaForge

inductive EntityKind where
  /-- The base of all kinds; no template is written for it. -/
  | any
  | serializable
  | composite
  | struct
  | union
  | service
  | space
deriving Repr, DecidableEq

namespace EntityKind

def all : List EntityKind :=
  [any, serializable, composite, struct, union, service, space]

def name : EntityKind → String
  | any => "Any"
  | serializable => "SerializableType"
  | composite => "CompositeType"
  | struct => "StructureType"
  | union => "UnionType"
  | service => "ServiceType"
  | space => "Namespace"

def bases : EntityKind → List EntityKind
  | any => []
  | serializable => [any]
  | space => [any]
  | composite => [serializable]
  | struct => [composite]
  | union => [composite]
  | service => [composite]

def closeBases : (fuel : Nat) → List EntityKind → List EntityKind → List EntityKind
  | 0, order, _ => order
  | _ + 1, order, [] => order
  | fuel + 1, order, kind :: queue =>
    let new := kind.bases.filter fun b => !order.contains b
    closeBases fuel (order ++ new) (queue ++ new)

def searchOrder (kind : EntityKind) : List EntityKind :=
  (closeBases all.length [kind] [kind]).filter (· ≠ any)

def ofName? (name : String) : Option EntityKind :=
  all.find? (·.name = name)

def ofType (t : CompositeType) : EntityKind :=
  match t.kind with
  | .struct => struct
  | .union => union
  | .service _ _ => service

def ofEntity : Entity → EntityKind
  | .type t => ofType t
  | .space _ => space

end EntityKind

end SchemaForge
