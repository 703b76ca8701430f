import SchemaForge.Generation.Context
import SchemaForge.Layout
import SchemaForge.Namespace.Tree
import SchemaForge.Schema.Document

/-! The data that templates are rendered with, for types, namespaces and support files. -/

namespace SchemaForge.Data

open Json (obj arr str bool)

def typeName (l : Language) (k : TypeKey) : String :=
  let flat := String.ofList (k.fullName.toList.map fun c => if c = '.' then '_' else c)
  l.encoder.encode
    (flat ++ "_" ++ toString k.version.major.toNat ++ "_" ++ toString k.version.minor.toNat)

def localName (l : Language) (k : TypeKey) : String :=
  l.encoder.encode (Layout.typeStem k)

def qualifiedName (l : Language) (k : TypeKey) : String :=
  let spaces := (Text.components k.fullName).dropLast.map l.encoder.encode
  Text.joinStrings "::" (spaces ++ [localName l k])

/-- The name of a data type in the language; an array is named by its elements. -/
def dataTypeName (l : Language) (compositeName : TypeKey → String) : DataType → String
  | .primitive p => l.rules.namedType p.schemaName
  | .array element _ => dataTypeName l compositeName element
  | .composite key => compositeName key

def ofAttribute (l : Language) (a : Attribute) : Json :=
  let capacity := match a.dataType with
    | .array _ c => some c
    | _ => none
  let value := match a.kind with
    | .constant v => some (l.rules.namedValue v)
    | _ => none
  obj [
    ("capacity", Json.ofOption (fun c : Capacity => .int c.max.toNat) capacity),
    ("is_array", bool capacity.isSome),
    ("is_composite", bool a.dataType.composite?.isSome),
    ("is_constant", bool a.isConstant),
    ("is_padding", bool a.isPadding),
    ("is_variable_length", bool (capacity.any (·.isVariable))),
    ("name", str a.name),
    ("qualified_type_name", str (dataTypeName l (qualifiedName l) a.dataType)),
    ("type_name", str (dataTypeName l (typeName l) a.dataType)),
    ("value", Json.ofOption str value)]

def kindName : CompositeKind → String
  | .struct => "structure"
  | .union => "union"
  | .service _ _ => "service"

def compositeMembers (l : Language) (t : CompositeType) : List (String × Json) := [
    ("constants", arr (t.constants.map (ofAttribute l))),
    ("deprecated", bool t.deprecated),
    ("fields", arr (t.fields.map (ofAttribute l))),
    ("full_name", str t.fullName),
    ("is_service", bool t.isService),
    ("is_union", bool t.isUnion),
    ("kind", str (kindName t.kind)),
    ("local_name", str (localName l t.key)),
    ("namespace", str t.namespaceName),
    ("namespace_components", Json.strings t.namespaceComponents),
    ("qualified_name", str (qualifiedName l t.key)),
    ("short_name", str t.shortName),
    ("type_name", str (typeName l t.key)),
    ("version", Document.ofVersion t.version)]

/-- A request or response; one that the catalog lacks has no attributes. -/
def ofSection (l : Language) (catalog : Catalog) (k : TypeKey) : Json :=
  match catalog.get? k with
  | some t => obj (compositeMembers l t)
  | none => obj [
      ("constants", arr []),
      ("fields", arr []),
      ("full_name", str k.fullName),
      ("short_name", str k.shortName),
      ("type_name", str (typeName l k)),
      ("version", Document.ofVersion k.version)]

def ofType (l : Language) (catalog : Catalog) (t : CompositeType) : Json :=
  match t.kind with
  | .service request response =>
    obj (compositeMembers l t
      ++ [("request", ofSection l catalog request), ("response", ofSection l catalog response)])
  | _ => obj (compositeMembers l t)

def ofLanguage (l : Language) : Json :=
  obj [
    ("enable_stropping", bool l.rules.language.stropping),
    ("extension", str l.rules.language.extension),
    ("has_standard_namespace_files", bool l.rules.language.namespaceFiles),
    ("name", str l.name)]

def shared (l : Language) (c : Context) : List (String × Json) :=
  [("ctx", c.toJson), ("language", ofLanguage l)]

def forType (l : Language) (c : Context) (catalog : Catalog) (t : CompositeType)
    (includes : List String) : Json :=
  (obj (("T", ofType l catalog t) :: ("includes", Json.strings includes) :: shared l c)).sorted

def ofPlacedType (l : Language) (k : TypeKey) (path : Path) : Json :=
  obj [
    ("file_name", str (path.fileName?.getD "")),
    ("full_name", str k.fullName),
    ("short_name", str k.shortName),
    ("stem", str (Layout.typeStem k)),
    ("type_name", str (typeName l k)),
    ("version", Document.ofVersion k.version)]

def ofNamespace (l : Language) (n : Namespace) : Json :=
  obj [
    ("children", Json.strings n.children),
    ("components", Json.strings n.components),
    ("encoded_name", str n.encodedName),
    ("full_name", str n.fullName),
    ("short_name", str n.shortName),
    ("types", arr (n.types.map fun (k, path) => ofPlacedType l k path))]

def forNamespace (l : Language) (c : Context) (n : Namespace) : Json :=
  (obj (("N", ofNamespace l n) :: shared l c)).sorted

def forSupport (l : Language) (c : Context) (stem : String) : Json :=
  (obj (("stem", str stem) :: shared l c)).sorted

end SchemaForge.Data
