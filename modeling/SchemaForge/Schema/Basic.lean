import SchemaForge.Ordered
import SchemaForge.Text.Dotted

/-! The types a schema describes: structures, unions and services with versions, and the data
types of their attributes. Types refer to each other by key, so references may form cycles. -/

namespace SchemaForge

structure Version where
  major : UInt8
  minor : UInt8
deriving Repr, DecidableEq

structure TypeKey where
  fullName : String
  version : Version
deriving Repr, DecidableEq

inductive Primitive where
  | boolean
  | signed (bits : UInt8)
  | unsigned (bits : UInt8)
  | float (bits : UInt8)
  /-- Padding; carries no value. -/
  | void (bits : UInt8)
deriving Repr, DecidableEq

inductive Capacity where
  | fixed (size : UInt32)
  | upTo (bound : UInt32)
deriving Repr, DecidableEq

inductive DataType where
  | primitive (p : Primitive)
  | array (element : DataType) (capacity : Capacity)
  | composite (key : TypeKey)
deriving Repr, DecidableEq

inductive AttributeKind where
  | field
  | padding
  /-- A constant with its value as written in the schema. -/
  | constant (value : String)
deriving Repr, DecidableEq

structure Attribute where
  name : String := ""
  kind : AttributeKind
  dataType : DataType
deriving Repr, DecidableEq

inductive CompositeKind where
  | struct
  | union
  /-- A service has no attributes of its own. -/
  | service (request response : TypeKey)
deriving Repr, DecidableEq

structure CompositeType where
  fullName : String
  version : Version
  kind : CompositeKind
  attributes : List Attribute := []
  parentService : Option TypeKey := none
  deprecated : Bool := false
deriving Repr, DecidableEq

namespace Version

def display (v : Version) : String :=
  toString v.major.toNat ++ "." ++ toString v.minor.toNat

end Version

namespace TypeKey

def display (k : TypeKey) : String :=
  k.fullName ++ "." ++ k.version.display

def shortName (k : TypeKey) : String :=
  Text.lastComponent k.fullName

def namespaceName (k : TypeKey) : String :=
  (Text.parentName? k.fullName).getD ""

def namespaceComponents (k : TypeKey) : List String :=
  (Text.components k.namespaceName).filter fun c => !c.isEmpty

def lt (a b : TypeKey) : Bool :=
  a.fullName < b.fullName ||
    (a.fullName == b.fullName &&
      (a.version.major < b.version.major ||
        (a.version.major == b.version.major && a.version.minor < b.version.minor)))

theorem lt_iff {a b : TypeKey} :
    lt a b = true ↔ a.fullName < b.fullName ∨
      a.fullName = b.fullName ∧ (a.version.major < b.version.major ∨
        a.version.major = b.version.major ∧ a.version.minor < b.version.minor) := by
  simp [lt]

theorem lt_irrefl (a : TypeKey) : ¬ lt a a = true := by
  simp [lt_iff]

theorem lt_trans (a b c : TypeKey) (hab : lt a b = true) (hbc : lt b c = true) :
    lt a c = true := by
  rw [lt_iff] at *
  rcases hab with hab | ⟨hname, hab⟩
  · rcases hbc with hbc | ⟨hname, -⟩
    · exact Or.inl (String.lt_trans hab hbc)
    · exact Or.inl (hname ▸ hab)
  · rcases hbc with hbc | ⟨hname', hbc⟩
    · exact Or.inl (hname ▸ hbc)
    · refine Or.inr ⟨hname.trans hname', ?_⟩
      rcases hab with hab | ⟨hmajor, hab⟩
      · rcases hbc with hbc | ⟨hmajor, -⟩
        · exact Or.inl (UInt8.lt_trans hab hbc)
        · exact Or.inl (hmajor ▸ hab)
      · rcases hbc with hbc | ⟨hmajor', hbc⟩
        · exact Or.inl (hmajor ▸ hbc)
        · exact Or.inr ⟨hmajor.trans hmajor', UInt8.lt_trans hab hbc⟩

theorem lt_total (a b : TypeKey) (hne : a ≠ b) (h : lt a b = false) : lt b a = true := by
  have hnot : ¬ lt a b = true := by simp [h]
  rw [lt_iff, not_or, String.not_lt, not_and, not_or, UInt8.not_lt, not_and, UInt8.not_lt] at hnot
  obtain ⟨hname, hversion⟩ := hnot
  rw [lt_iff]
  by_cases heq : a.fullName = b.fullName
  · obtain ⟨hmajor, hminor⟩ := hversion heq
    refine Or.inr ⟨heq.symm, ?_⟩
    by_cases hsame : a.version.major = b.version.major
    · refine Or.inr ⟨hsame.symm, UInt8.lt_of_le_of_ne (hminor hsame) fun hm => hne ?_⟩
      obtain ⟨name, major, minor⟩ := a
      obtain ⟨name', major', minor'⟩ := b
      simp_all
    · exact Or.inl (UInt8.lt_of_le_of_ne hmajor (Ne.symm hsame))
  · exact Or.inl (String.not_le.mp fun hle => heq (String.le_antisymm hle hname))

def insertSorted (key : TypeKey) (keys : List TypeKey) : List TypeKey :=
  Ordered.insert lt key keys

theorem mem_insertSorted (key k : TypeKey) (keys : List TypeKey) :
    k ∈ insertSorted key keys ↔ k = key ∨ k ∈ keys :=
  Ordered.mem_insert

end TypeKey

namespace Primitive

def schemaName : Primitive → String
  | boolean => "bool"
  | signed bits => "int" ++ toString bits.toNat
  | unsigned bits => "uint" ++ toString bits.toNat
  | float bits => "float" ++ toString bits.toNat
  | void bits => "void" ++ toString bits.toNat

def isInteger : Primitive → Bool
  | signed _ => true
  | unsigned _ => true
  | _ => false

end Primitive

namespace Capacity

def max : Capacity → UInt32
  | fixed n => n
  | upTo n => n

def isVariable : Capacity → Bool
  | fixed _ => false
  | upTo _ => true

end Capacity

namespace DataType

def isPrimitive : DataType → Bool
  | primitive _ => true
  | _ => false

def composite? : DataType → Option TypeKey
  | composite key => some key
  | _ => none

end DataType

namespace Attribute

def isConstant (a : Attribute) : Bool :=
  match a.kind with
  | .constant _ => true
  | _ => false

def isPadding (a : Attribute) : Bool :=
  a.kind == .padding

end Attribute

namespace CompositeType

def key (t : CompositeType) : TypeKey :=
  ⟨t.fullName, t.version⟩

def shortName (t : CompositeType) : String :=
  t.key.shortName

def namespaceName (t : CompositeType) : String :=
  t.key.namespaceName

def namespaceComponents (t : CompositeType) : List String :=
  t.key.namespaceComponents

def isUnion (t : CompositeType) : Bool :=
  t.kind == .union

def isService (t : CompositeType) : Bool :=
  match t.kind with
  | .service _ _ => true
  | _ => false

def fields (t : CompositeType) : List Attribute :=
  t.attributes.filter fun a => !a.isConstant

def constants (t : CompositeType) : List Attribute :=
  t.attributes.filter (·.isConstant)

end CompositeType

end SchemaForge
