import SchemaForge.Json.Parser
import SchemaForge.Schema.Catalog

/-! The JSON form of type lists, written and read.

Objects may hold keys that are not known, but no known key twice. Versions, keys, the document
itself and data types may also be arrays of their values in field order; types and attributes
are objects only. The tag of a variant is its name; where the tag has been read ahead of the rest
it may also be the variant's position. -/

namespace SchemaForge.Document

open Json (obj arr str int)

/-! Writing. -/

def ofVersion (v : Version) : Json :=
  obj [("major", int v.major.toNat), ("minor", int v.minor.toNat)]

def ofKey (k : TypeKey) : Json :=
  obj [("full_name", str k.fullName), ("version", ofVersion k.version)]

def primitiveMembers : Primitive → List (String × Json)
  | .boolean => [("primitive", str "boolean")]
  | .signed bits => [("primitive", str "signed_integer"), ("bits", int bits.toNat)]
  | .unsigned bits => [("primitive", str "unsigned_integer"), ("bits", int bits.toNat)]
  | .float bits => [("primitive", str "float"), ("bits", int bits.toNat)]
  | .void bits => [("primitive", str "void"), ("bits", int bits.toNat)]

def ofCapacity : Capacity → Json
  | .fixed n => obj [("fixed", int n.toNat)]
  | .upTo n => obj [("variable", int n.toNat)]

def ofDataType : DataType → Json
  | .primitive p => obj (("type", str "primitive") :: primitiveMembers p)
  | .array element capacity =>
    obj [("type", str "array"), ("element", ofDataType element), ("capacity", ofCapacity capacity)]
  | .composite key =>
    obj [("type", str "composite"), ("full_name", str key.fullName),
      ("version", ofVersion key.version)]

def attributeKindMembers : AttributeKind → List (String × Json)
  | .field => [("kind", str "field")]
  | .padding => [("kind", str "padding")]
  | .constant value => [("kind", str "constant"), ("value", str value)]

def ofAttribute (a : Attribute) : Json :=
  obj (("name", str a.name) :: attributeKindMembers a.kind
    ++ [("data_type", ofDataType a.dataType)])

def kindMembers : CompositeKind → List (String × Json)
  | .struct => [("kind", str "structure")]
  | .union => [("kind", str "union")]
  | .service request response =>
    [("kind", str "service"), ("request", ofKey request), ("response", ofKey response)]

def ofType (t : CompositeType) : Json :=
  obj (("full_name", str t.fullName) :: ("version", ofVersion t.version) :: kindMembers t.kind
    ++ [("attributes", arr (t.attributes.map ofAttribute)),
      ("parent_service", Json.ofOption ofKey t.parentService),
      ("deprecated", .bool t.deprecated)])

def ofTypes (types : List CompositeType) : Json :=
  obj [("types", arr (types.map ofType))]

/-! Reading. -/

abbrev Members := List (String × Json)

/-- The value of a key that may stand once at most; fails where it stands twice. -/
def optional (members : Members) (key : String) : Option (Option Json) :=
  match members.filter fun (k, _) => k == key with
  | [] => some none
  | [(_, v)] => some (some v)
  | _ => none

def required (members : Members) (key : String) : Option Json := do
  (← optional members key)

/-- The values of a record's fields, from an object or from an array in field order. -/
def fields (names : List String) : Json → Option (List Json)
  | .obj members => names.mapM (required members)
  | .arr items => if items.length = names.length then some items else none
  | _ => none

def byte : Json → Option UInt8
  | .int n => if 0 ≤ n ∧ n < 256 then some (UInt8.ofNat n.toNat) else none
  | _ => none

def word : Json → Option UInt32
  | .int n => if 0 ≤ n ∧ n.toNat < Nat.pow 2 32 then some (UInt32.ofNat n.toNat) else none
  | _ => none

def toVersion (j : Json) : Option Version :=
  match fields ["major", "minor"] j with
  | some [major, minor] => do some ⟨← byte major, ← byte minor⟩
  | _ => none

def toKey (j : Json) : Option TypeKey :=
  match fields ["full_name", "version"] j with
  | some [name, version] => do some ⟨← name.str?, ← toVersion version⟩
  | _ => none

def variant (names : List String) (byPosition : Bool) : Json → Option String
  | .str s => if names.contains s then some s else none
  | .int n => if byPosition && 0 ≤ n then names[n.toNat]? else none
  | _ => none

def capacity : Json → Option Capacity
  | .obj [("fixed", n)] => (word n).map .fixed
  | .obj [("variable", n)] => (word n).map .upTo
  | _ => none

def primitiveNames : List String :=
  ["boolean", "signed_integer", "unsigned_integer", "float", "void"]

def sizedPrimitive : String → UInt8 → Option Primitive
  | "signed_integer", bits => some (.signed bits)
  | "unsigned_integer", bits => some (.unsigned bits)
  | "float", bits => some (.float bits)
  | "void", bits => some (.void bits)
  | _, _ => none

def primitiveOfMembers (members : Members) : Option Primitive := do
  let name ← variant primitiveNames true (← required members "primitive")
  if name = "boolean" then some .boolean
  else sizedPrimitive name (← byte (← required members "bits"))

def primitiveOfItems : List Json → Option Primitive
  | [] => none
  | tag :: rest => do
    let name ← variant primitiveNames true tag
    if name = "boolean" then (if rest.isEmpty then some .boolean else none)
    else match rest with
      | [bits] => sizedPrimitive name (← byte bits)
      | _ => none

def dataTypeNames : List String :=
  ["primitive", "array", "composite"]

/-- Reads a data type nested at most `depth` deep; tags by position are for nested ones only. -/
def dataType : (depth : Nat) → (nested : Bool) → Json → Option DataType
  | 0, _, _ => none
  | depth + 1, nested, .obj members => do
    match ← variant dataTypeNames nested (← required members "type") with
    | "primitive" => (primitiveOfMembers members).map .primitive
    | "array" =>
      let element ← dataType depth true (← required members "element")
      some (.array element (← capacity (← required members "capacity")))
    | _ =>
      let name ← (← required members "full_name").str?
      some (.composite ⟨name, ← toVersion (← required members "version")⟩)
  | depth + 1, nested, .arr (tag :: rest) => do
    match ← variant dataTypeNames nested tag with
    | "primitive" => (primitiveOfItems rest).map .primitive
    | "array" =>
      match rest with
      | [element, size] => some (.array (← dataType depth true element) (← capacity size))
      | _ => none
    | _ => (toKey (.arr rest)).map .composite
  | _, _, _ => none

def attributeKind (members : Members) : Option AttributeKind := do
  match ← variant ["field", "padding", "constant"] true (← required members "kind") with
  | "field" => some .field
  | "padding" => some .padding
  | _ => some (.constant (← (← required members "value").str?))

def toAttribute : Json → Option Attribute
  | .obj members => do
    let name ← match ← optional members "name" with
      | some v => v.str?
      | none => some ""
    let dataType ← dataType Json.depthLimit false (← required members "data_type")
    some { name, kind := ← attributeKind members, dataType }
  | _ => none

def compositeKind (members : Members) : Option CompositeKind := do
  match ← variant ["structure", "union", "service"] true (← required members "kind") with
  | "structure" => some .struct
  | "union" => some .union
  | _ =>
    some (.service (← toKey (← required members "request")) (← toKey (← required members "response")))

def toType : Json → Option CompositeType
  | .obj members => do
    let attributes ← match ← optional members "attributes" with
      | some (.arr items) => items.mapM toAttribute
      | some _ => none
      | none => some []
    let parentService ← match ← optional members "parent_service" with
      | some .null => some none
      | some v => (toKey v).map some
      | none => some none
    let deprecated ← match ← optional members "deprecated" with
      | some v => v.bool?
      | none => some false
    some {
      fullName := ← (← required members "full_name").str?
      version := ← toVersion (← required members "version")
      kind := ← compositeKind members
      attributes, parentService, deprecated }
  | _ => none

def toTypes (j : Json) : Option (List CompositeType) :=
  match fields ["types"] j with
  | some [.arr items] => items.mapM toType
  | _ => none

/-- Versions, keys and the document itself pass over members they do not know; types read them,
as one of them may belong to the kind. -/
def shape : Json.Shape :=
  let version := .record [("major", .value), ("minor", .value)] true
  let key := .record [("full_name", .value), ("version", version)] true
  .record [("types", .list (.record [("version", version), ("parent_service", key)] false))] true

def readCatalog (text : String) : Except CatalogError Catalog :=
  match Json.parseAs shape text with
  | .error _ => .error .malformed
  | .ok j => match toTypes j with
    | none => .error .malformed
    | some types => Catalog.ofTypes types

end SchemaForge.Document
