import SchemaForge.Error
import SchemaForge.Measure
import SchemaForge.Namespace.Basic
import SchemaForge.Schema.Catalog

/-! The namespaces of one run, linked by their names. Links lead from a name to one that is longer
or shorter by its last component, so following them comes to an end in every tree. -/

namespace SchemaForge

structure Tree where
  catalog : Catalog
  nodes : List Namespace
  rootName : String

namespace Tree

def get? (t : Tree) (name : String) : Option Namespace :=
  t.nodes.find? (·.fullName = name)

def root? (t : Tree) : Option Namespace :=
  t.get? t.rootName

def childrenOf (t : Tree) (n : Namespace) : List Namespace :=
  n.children.filterMap t.get?

theorem mem_of_get? {t : Tree} {name : String} {n : Namespace} (h : t.get? name = some n) :
    n ∈ t.nodes ∧ n.fullName = name :=
  ⟨List.mem_of_find?_eq_some h, by simpa using List.find?_some h⟩

section Extent

def longest (t : Tree) : Nat :=
  (t.nodes.map (·.fullName.length)).foldr max 0

def extentTo (t : Tree) : (depth : Nat) → Namespace → Nat
  | 0, _ => 1
  | depth + 1, n => 1 + total (extentTo t depth) (t.childrenOf n)

def extent (t : Tree) (n : Namespace) : Nat :=
  t.extentTo (t.longest + 1 - n.fullName.length) n

theorem length_le_longest {t : Tree} {n : Namespace} (h : n ∈ t.nodes) :
    n.fullName.length ≤ t.longest := by
  unfold longest
  generalize t.nodes = nodes at h ⊢
  induction nodes with
  | nil => cases h
  | cons m rest ih =>
    simp only [List.map_cons, List.foldr_cons]
    rcases List.mem_cons.mp h with rfl | h
    · exact Nat.le_max_left _ _
    · exact Nat.le_trans (ih h) (Nat.le_max_right _ _)

theorem extentTo_le_succ (t : Tree) (depth : Nat) (n : Namespace) :
    t.extentTo depth n ≤ t.extentTo (depth + 1) n := by
  induction depth generalizing n with
  | zero => simp [extentTo]
  | succ depth ih => exact Nat.add_le_add_left (total_le fun m _ => ih m) 1

theorem extentTo_mono (t : Tree) {depth depth' : Nat} (h : depth ≤ depth') (n : Namespace) :
    t.extentTo depth n ≤ t.extentTo depth' n := by
  induction h with
  | refl => exact Nat.le_refl _
  | step _ ih => exact Nat.le_trans ih (t.extentTo_le_succ _ n)

theorem mem_childrenOf {t : Tree} {n m : Namespace} (h : m ∈ t.childrenOf n) :
    m ∈ t.nodes ∧ Text.parentName? m.fullName = some n.fullName := by
  obtain ⟨child, hchild, hget⟩ := List.mem_filterMap.mp h
  obtain ⟨hnode, rfl⟩ := mem_of_get? hget
  exact ⟨hnode, n.children_below _ hchild⟩

/-- All that lies below a namespace is less than what lies at and below it. -/
theorem extent_childrenOf_lt (t : Tree) (n : Namespace) :
    total t.extent (t.childrenOf n) < t.extent n := by
  unfold extent
  cases hdepth : t.longest + 1 - n.fullName.length with
  | zero =>
    have hnone : t.childrenOf n = [] := by
      apply List.eq_nil_iff_forall_not_mem.mpr
      intro m hm
      obtain ⟨hnode, hparent⟩ := mem_childrenOf hm
      have hlength := Text.length_lt_of_parentName? hparent
      have hlongest := length_le_longest hnode
      omega
    simp [hnone, extentTo]
  | succ depth =>
    rw [extentTo, Nat.lt_iff_add_one_le, Nat.add_comm]
    apply Nat.add_le_add_left
    apply total_le
    intro m hm
    have hlength := Text.length_lt_of_parentName? (mem_childrenOf hm).2
    exact t.extentTo_mono (by omega) m

end Extent

def climb (t : Tree) (n : Namespace) : Option Namespace :=
  match _hparent : n.parent with
  | none => some n
  | some p =>
    match _hget : t.get? p with
    | none => none
    | some above => climb t above
termination_by n.fullName.length
decreasing_by
  rw [(mem_of_get? _hget).2]
  exact Text.length_lt_of_parentName? (n.parent_above p _hparent)

def rootOf? (t : Tree) (name : String) : Option Namespace :=
  (t.get? name).bind t.climb

/-- Searches level by level for the owner of a type, leaving out the node called `skip`. -/
def search (t : Tree) (skip : String) (key : TypeKey) (queue : List Namespace) : Option Path :=
  match queue with
  | [] => none
  | n :: rest =>
    match if n.fullName = skip then none else n.pathFor? key with
    | some path => some path
    | none => search t skip key (rest ++ t.childrenOf n)
termination_by total t.extent queue
decreasing_by
  have hbelow := t.extent_childrenOf_lt n
  simp only [total_append, total_cons]
  omega

/-- The file of a type, looked for in `start` first and then from the top of the tree. -/
def pathOf (t : Tree) (start : String) (key : TypeKey) : Except GenerationError Path :=
  match (t.get? start).bind (·.pathFor? key) with
  | some path => .ok path
  | none =>
    match t.search start key (t.rootOf? start <|> t.root?).toList with
    | some path => .ok path
    | none => .error (.typeNotFound key)

end Tree

end SchemaForge
