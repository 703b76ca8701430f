import SchemaForge.Measure
import SchemaForge.Schema.Catalog

/-! What types rely on: the keys their attributes refer to and the language features they need.
Direct dependencies look at a type's own attributes; transitive ones follow every reference that
the catalog defines, each key once. -/

namespace SchemaForge

structure Dependencies where
  types : List TypeKey := []
  integer : Bool := false
  float : Bool := false
  bool : Bool := false
  /-- A fixed-length array is used. -/
  array : Bool := false
  variableArray : Bool := false
  /-- A fixed-length array of primitives is used. -/
  primitiveArray : Bool := false
  union : Bool := false
deriving Repr, DecidableEq

namespace Dependencies

def addPrimitive (d : Dependencies) : Primitive → Dependencies
  | .boolean => { d with bool := true }
  | .signed _ => { d with integer := true }
  | .unsigned _ => { d with integer := true }
  | .float _ => { d with float := true }
  | .void _ => d

def addCapacity (d : Dependencies) (element : DataType) : Capacity → Dependencies
  | .upTo _ => { d with variableArray := true }
  | .fixed _ =>
    { d with array := true, primitiveArray := d.primitiveArray || element.isPrimitive }

def addKey (d : Dependencies) (key : TypeKey) : Dependencies :=
  { d with types := key.insertSorted d.types }

/-- A union needs an integer for its tag. -/
def addUnion (d : Dependencies) (t : CompositeType) : Dependencies :=
  if t.isUnion then { d with integer := true, union := true } else d

def addDataType (d : Dependencies) : DataType → Dependencies
  | .primitive p => d.addPrimitive p
  | .array element capacity => addDataType (d.addCapacity element capacity) element
  | .composite key => d.addKey key

@[simp] theorem types_addPrimitive (d : Dependencies) (p : Primitive) :
    (d.addPrimitive p).types = d.types := by
  cases p <;> rfl

@[simp] theorem types_addCapacity (d : Dependencies) (element : DataType) (capacity : Capacity) :
    (d.addCapacity element capacity).types = d.types := by
  cases capacity <;> rfl

@[simp] theorem types_addKey (d : Dependencies) (key : TypeKey) :
    (d.addKey key).types = key.insertSorted d.types := rfl

@[simp] theorem types_addUnion (d : Dependencies) (t : CompositeType) :
    (d.addUnion t).types = d.types := by
  unfold addUnion
  split <;> rfl

end Dependencies

def DataType.depth : DataType → Nat
  | .primitive _ => 1
  | .array element _ => element.depth + 1
  | .composite _ => 1

namespace Catalog

/-- The attributes that count as a type's own: a service stands for its request and response. -/
def attributesOf (c : Catalog) (t : CompositeType) : List Attribute :=
  match t.kind with
  | .service request response =>
    ([request, response].filterMap c.get?).flatMap (·.attributes)
  | _ => t.attributes

def dataTypesOf (c : Catalog) (t : CompositeType) : List DataType :=
  (c.attributesOf t).map (·.dataType)

def addType (c : Catalog) (d : Dependencies) (t : CompositeType) : Dependencies :=
  (c.dataTypesOf t).foldl Dependencies.addDataType (d.addUnion t)

def directDependencies (c : Catalog) (types : List CompositeType) : Dependencies :=
  types.foldl c.addType {}

def unreached (c : Catalog) (seen : List TypeKey) : Nat :=
  (c.types.filter fun t => !seen.contains t.key).length

theorem unreached_insertSorted (c : Catalog) (seen : List TypeKey) (key : TypeKey) :
    c.unreached (key.insertSorted seen) =
      ((c.types.filter fun t => !seen.contains t.key).filter fun t => t.key ≠ key).length := by
  unfold unreached
  rw [List.filter_filter]
  apply congrArg List.length
  apply List.filter_congr
  intro t _
  simp [TypeKey.mem_insertSorted]

theorem unreached_insertSorted_lt (c : Catalog) {seen : List TypeKey} {key : TypeKey}
    {t : CompositeType} (ht : c.get? key = some t) (hs : ¬ key ∈ seen) :
    c.unreached (key.insertSorted seen) < c.unreached seen := by
  have hmem : t ∈ c.types := List.mem_of_find?_eq_some ht
  have hkey : t.key = key := by simpa using List.find?_some ht
  rw [unreached_insertSorted]
  refine List.length_filter_lt_length_iff_exists.mpr ⟨t, ?_, ?_⟩
  · simp [hmem, hkey, hs]
  · simp [hkey]

theorem unreached_insertSorted_le (c : Catalog) (seen : List TypeKey) (key : TypeKey) :
    c.unreached (key.insertSorted seen) ≤ c.unreached seen := by
  rw [unreached_insertSorted]
  exact List.length_filter_le _ _

/-- Adds what the waiting data types rely on, in depth: when a key is first met and the catalog
defines it, the data types of its type go before all that wait. Keys found so far are not followed
again. -/
def follow (c : Catalog) (d : Dependencies) (waiting : List DataType) : Dependencies :=
  match waiting with
  | [] => d
  | .primitive p :: rest => follow c (d.addPrimitive p) rest
  | .array element capacity :: rest => follow c (d.addCapacity element capacity) (element :: rest)
  | .composite key :: rest =>
    if key ∈ d.types then follow c d rest
    else
      match _found : c.get? key with
      | some t => follow c ((d.addKey key).addUnion t) (c.dataTypesOf t ++ rest)
      | none => follow c (d.addKey key) rest
termination_by (c.unreached d.types, total DataType.depth waiting)
decreasing_by
  · simp only [Dependencies.types_addPrimitive, total_cons, DataType.depth]
    exact Prod.Lex.right _ (by omega)
  · simp only [Dependencies.types_addCapacity, total_cons, DataType.depth]
    exact Prod.Lex.right _ (by omega)
  · exact Prod.Lex.right _ (by simp [DataType.depth])
  · simp only [Dependencies.types_addUnion, Dependencies.types_addKey]
    exact Prod.Lex.left _ _ (c.unreached_insertSorted_lt _found (by assumption))
  · simp only [Dependencies.types_addKey]
    rcases Nat.lt_or_eq_of_le (c.unreached_insertSorted_le d.types key) with h | h
    · exact Prod.Lex.left _ _ h
    · rw [h]; exact Prod.Lex.right _ (by simp [DataType.depth])

/-- Dependencies of the given types and of every type they refer to, directly or through
others. -/
def transitiveDependencies (c : Catalog) (types : List CompositeType) : Dependencies :=
  types.foldl (fun d t => c.follow (d.addUnion t) (c.dataTypesOf t)) {}

end Catalog

end SchemaForge
