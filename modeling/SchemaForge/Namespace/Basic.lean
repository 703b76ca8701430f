import SchemaForge.Ordered
import SchemaForge.Path
import SchemaForge.Schema.Basic

/-! One namespace of a run: its names and places, its links to other namespaces by name, and the
types in it. -/

namespace SchemaForge

structure Namespace where
  fullName : String
  encodedName : String
  sourceDir : Path
  outputFolder : Path
  outputPath : Path
  parent : Option String := none
  children : List String := []
  /-- The types placed here and their files, in catalog order. -/
  types : List (TypeKey × Path) := []
  parent_above : ∀ p, parent = some p → Text.parentName? fullName = some p := by simp
  children_below : ∀ child ∈ children, Text.parentName? child = some fullName := by simp
deriving Repr, DecidableEq

namespace Namespace

def shortName (n : Namespace) : String :=
  Text.lastComponent n.fullName

def components (n : Namespace) : List String :=
  Text.components n.fullName

def pathFor? (n : Namespace) (key : TypeKey) : Option Path :=
  n.types.lookup key

def addType (n : Namespace) (key : TypeKey) (path : Path) : Namespace :=
  { n with types := n.types ++ [(key, path)] }

def setParent (n : Namespace) (p : String) (h : Text.parentName? n.fullName = some p) : Namespace :=
  { n with
    parent := some p
    parent_above := fun _ hp => h.trans hp }

def addChild (n : Namespace) (child : String) (h : Text.parentName? child = some n.fullName) :
    Namespace :=
  { n with
    children := Ordered.insert Ordered.byText child n.children
    children_below := by
      intro other hother
      rcases Ordered.mem_insert.mp hother with rfl | hother
      · exact h
      · exact n.children_below other hother }

end Namespace

end SchemaForge
