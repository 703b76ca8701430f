import SchemaForge.Schema.Basic

/-! Catalogs: the types of one run in the order they were given, no key twice. -/

namespace SchemaForge

inductive CatalogError where
  /-- The document does not describe a list of types. -/
  | malformed
  | duplicate (key : TypeKey)
deriving Repr, DecidableEq

def CatalogError.message : CatalogError → String
  | malformed => "failed to parse type list"
  | duplicate key => "type '" ++ key.display ++ "' is defined more than once"

structure Catalog where
  types : List CompositeType := []
  distinct : (types.map (·.key)).Nodup := by decide

namespace Catalog

def get? (c : Catalog) (key : TypeKey) : Option CompositeType :=
  c.types.find? (·.key = key)

def contains (c : Catalog) (key : TypeKey) : Bool :=
  (c.get? key).isSome

/-- Adds a type at the end, unless its key is taken. -/
def insert (c : Catalog) (t : CompositeType) : Except CatalogError Catalog :=
  if h : t.key ∈ c.types.map (·.key) then .error (.duplicate t.key)
  else .ok {
    types := c.types ++ [t]
    distinct := by
      simp only [List.map_append, List.map_cons, List.map_nil, List.nodup_append]
      refine ⟨c.distinct, by simp, ?_⟩
      intro a ha b hb
      simp only [List.mem_singleton] at hb
      rintro rfl
      exact h (hb ▸ ha) }

def ofTypes (types : List CompositeType) : Except CatalogError Catalog :=
  types.foldlM insert {}

end Catalog

end SchemaForge
