import Mathlib.Logic.Relation
import SchemaForge.Proofs.Namespace.Shape

/-! Looking up the file of a type. The search level by level comes to all nodes at or below those
it starts from, and from where it starts in a built tree these are all nodes with types. So the
answer is the one entry for the type, wherever the lookup was made. -/

namespace SchemaForge.Tree

def Leads (t : Tree) : Namespace → Namespace → Prop :=
  Relation.ReflTransGen fun n m => m ∈ t.childrenOf n

variable {t : Tree} {layout : Layout} {n m : Namespace} {key : TypeKey} {path : Path}

theorem mem_of_leads (hn : n ∈ t.nodes) (h : t.Leads n m) : m ∈ t.nodes := by
  induction h with
  | refl => exact hn
  | tail _ hchild _ => exact (mem_childrenOf hchild).1

section Search

variable {skip : String} {queue : List Namespace}

theorem search_sound (h : t.search skip key queue = some path) :
    ∃ n ∈ queue, ∃ m, t.Leads n m ∧ m.pathFor? key = some path := by
  fun_induction search t skip key queue with
  | case1 => cases h
  | case2 n rest found hfound =>
    cases h
    refine ⟨n, List.mem_cons_self, n, Relation.ReflTransGen.refl, ?_⟩
    by_cases hskip : n.fullName = skip
    · simp [hskip] at hfound
    · simpa [hskip] using hfound
  | case3 n rest hnone ih =>
    obtain ⟨first, hfirst, m, hleads, hpath⟩ := ih h
    rcases List.mem_append.mp hfirst with hfirst | hchild
    · exact ⟨first, List.mem_cons_of_mem n hfirst, m, hleads, hpath⟩
    · exact ⟨n, List.mem_cons_self, m, hleads.head hchild, hpath⟩

/-- A search that finds nothing has looked at every node it leads to, but for the one left out. -/
theorem search_complete (h : t.search skip key queue = none) :
    ∀ n ∈ queue, ∀ m, t.Leads n m → m.fullName ≠ skip → m.pathFor? key = none := by
  fun_induction search t skip key queue with
  | case1 =>
    intro n hn
    cases hn
  | case2 n rest found hfound => cases h
  | case3 n rest hnone ih =>
    intro first hfirst m hleads hskip
    rcases List.mem_cons.mp hfirst with rfl | hfirst
    · rcases Relation.ReflTransGen.cases_head hleads with rfl | ⟨child, hchild, hleads⟩
      · simpa [hskip] using hnone
      · exact ih h child (List.mem_append_right rest hchild) m hleads hskip
    · exact ih h first (List.mem_append_left _ hfirst) m hleads hskip

end Search

namespace Built

theorem pathFor?_eq_some_iff (h : t.Built layout) (hn : n ∈ t.nodes) :
    n.pathFor? key = some path ↔ (key, path) ∈ n.types := by
  have hmem : ∀ {p : Path}, n.pathFor? key = some p → (key, p) ∈ n.types := by
    intro p hp
    obtain ⟨before, after, hsplit, -⟩ := List.lookup_eq_some_iff.mp hp
    rw [hsplit]
    simp
  refine ⟨hmem, fun hentry => ?_⟩
  cases hlookup : n.pathFor? key with
  | none => exact absurd (List.lookup_eq_none_iff.mp hlookup _ hentry) (by simp)
  | some other =>
    rw [((h.mem_types hn).mp (hmem hlookup)).2, ((h.mem_types hn).mp hentry).2]

theorem mem_childrenOf_iff (h : t.Built layout) (hn : n ∈ t.nodes) :
    m ∈ t.childrenOf n ↔ m ∈ t.nodes ∧ m.parent = some n.fullName := by
  constructor
  · intro hm
    obtain ⟨hnode, hparent⟩ := mem_childrenOf hm
    exact ⟨hnode, (h.parent m hnode).trans hparent⟩
  · rintro ⟨hm, hparent⟩
    refine List.mem_filterMap.mpr ⟨m.fullName, (h.mem_children hn).mpr ⟨m, hm, rfl, hparent⟩, ?_⟩
    exact h.get?_eq_some_iff.mpr ⟨hm, rfl⟩

theorem leads_of_atOrAbove (h : t.Built layout) (hn : n ∈ t.nodes) (hm : m ∈ t.nodes)
    (habove : Text.AtOrAbove n.fullName m.fullName) : t.Leads n m := by
  induction hlength : m.fullName.length using Nat.strong_induction_on generalizing m with
  | _ length ih =>
    cases hparent : Text.parentName? m.fullName with
    | none =>
      rw [h.eq_of_fullName hn hm (habove.eq_of_parentName?_none hparent)]
      exact Relation.ReflTransGen.refl
    | some p =>
      rcases habove.eq_or_of_parentName? hparent with hsame | habove
      · rw [h.eq_of_fullName hn hm hsame]
        exact Relation.ReflTransGen.refl
      · have hwanted := (h.wanted hm).above (Text.AtOrAbove.of_parentName? hparent)
        obtain ⟨k, hget⟩ := h.exists_get? hwanted
        obtain ⟨hk, rfl⟩ := mem_of_get? hget
        have hshorter := Text.length_lt_of_parentName? hparent
        refine (ih k.fullName.length (hlength ▸ hshorter) hk habove rfl).tail ?_
        exact (h.mem_childrenOf_iff hk).mpr ⟨hm, (h.parent m hm).trans hparent⟩

theorem atOrAbove_of_climb (h : t.Built layout) (hn : n ∈ t.nodes) (hclimb : t.climb n = some m) :
    Text.AtOrAbove m.fullName n.fullName := by
  fun_induction Tree.climb t n with
  | case1 n htop =>
    cases hclimb
    exact Text.AtOrAbove.refl m.fullName
  | case2 n p hparent hnone => cases hclimb
  | case3 n p hparent k hget ih =>
    obtain ⟨hk, rfl⟩ := mem_of_get? hget
    refine (ih hk hclimb).trans (Text.AtOrAbove.of_parentName? ?_)
    rw [← h.parent n hn]
    exact hparent

/-- A lookup goes on from a node at or above the root, whether its start is a node or not. -/
theorem exists_start (h : t.Built layout) (start : String) :
    ∃ n ∈ t.nodes, (t.rootOf? start <|> t.root?) = some n ∧
      Text.AtOrAbove n.fullName t.rootName := by
  obtain ⟨root, hroot⟩ := h.exists_root
  obtain ⟨hmem, hname⟩ := mem_of_get? hroot
  cases hget : t.get? start with
  | none =>
    -- The start is no node, so the search goes on from the root.
    refine ⟨root, hmem, ?_, hname ▸ Text.AtOrAbove.refl root.fullName⟩
    unfold rootOf?
    rw [hget]
    exact hroot
  | some n =>
    obtain ⟨top, htop, -, hrootOf⟩ := h.exists_top
    have hrootTop : t.climb root = some top := by
      have hclimb := hrootOf root hmem
      unfold rootOf? at hclimb
      rwa [h.get?_eq_some_iff.mpr ⟨hmem, rfl⟩, Option.bind_some] at hclimb
    refine ⟨top, htop, ?_, hname ▸ h.atOrAbove_of_climb hmem hrootTop⟩
    obtain ⟨hn, rfl⟩ := mem_of_get? hget
    rw [hrootOf n hn]
    rfl

theorem pathOf_sound (h : t.Built layout) {start : String} (hpath : t.pathOf start key = .ok path) :
    ∃ n ∈ t.nodes, (key, path) ∈ n.types := by
  unfold pathOf at hpath
  split at hpath
  · rename_i found hlocal
    cases hpath
    obtain ⟨n, hget, hfound⟩ := Option.bind_eq_some_iff.mp hlocal
    have hn := (mem_of_get? hget).1
    exact ⟨n, hn, (h.pathFor?_eq_some_iff hn).mp hfound⟩
  · split at hpath
    · rename_i found hsearch
      cases hpath
      obtain ⟨first, hfirst, hstart, -⟩ := h.exists_start start
      rw [hstart] at hsearch
      obtain ⟨n, hn, m, hleads, hfound⟩ := search_sound hsearch
      obtain rfl : n = first := by simpa using hn
      have hm := mem_of_leads hfirst hleads
      exact ⟨m, hm, (h.pathFor?_eq_some_iff hm).mp hfound⟩
    · cases hpath

theorem pathOf_complete (h : t.Built layout) (hn : n ∈ t.nodes) (hentry : (key, path) ∈ n.types)
    (start : String) : t.pathOf start key = .ok path := by
  have hfound : ∃ p, t.pathOf start key = .ok p := by
    unfold pathOf
    split
    · exact ⟨_, rfl⟩
    · rename_i hlocal
      split
      · exact ⟨_, rfl⟩
      · rename_i hsearch
        -- The search goes on from above the root, and types are placed only below it.
        obtain ⟨first, hfirst, hstart, habove⟩ := h.exists_start start
        have hwithin : Text.AtOrAbove t.rootName n.fullName := by
          obtain ⟨⟨ty, hty, -, hname⟩, -⟩ := (h.mem_types hn).mp hentry
          exact hname ▸ atOrAbove_of_mem_typesBelow hty
        have hleads := h.leads_of_atOrAbove hfirst hn (habove.trans hwithin)
        have hpath := (h.pathFor?_eq_some_iff hn).mpr hentry
        rw [hstart] at hsearch
        by_cases hskip : n.fullName = start
        · rw [h.get?_eq_some_iff.mpr ⟨hn, hskip⟩, Option.bind_some, hpath] at hlocal
          cases hlocal
        · rw [search_complete hsearch first (by simp) n hleads hskip] at hpath
          cases hpath
  obtain ⟨p, hp⟩ := hfound
  obtain ⟨m, hm, hother⟩ := h.pathOf_sound hp
  rw [hp, ((h.mem_types hm).mp hother).2, ((h.mem_types hn).mp hentry).2]

theorem pathOf_eq_error (h : t.Built layout) (hnone : ∀ n ∈ t.nodes, key ∉ n.types.map Prod.fst)
    (start : String) : t.pathOf start key = .error (.typeNotFound key) := by
  cases hpath : t.pathOf start key with
  | ok path =>
    obtain ⟨n, hn, hentry⟩ := h.pathOf_sound hpath
    exact absurd (List.mem_map_of_mem hentry) (hnone n hn)
  | error e =>
    unfold pathOf at hpath
    split at hpath
    · cases hpath
    · split at hpath
      · cases hpath
      · exact hpath.symm

end Built

/-- In a built tree the file of a type is what the node that holds the type has for it, and a type
that no node holds is not found, from wherever the lookup starts. -/
theorem pathOf_of_build {hasDir : Path → Bool} {catalog : Catalog} {rootDir : Path}
    (hbuild : build hasDir catalog rootDir layout = .ok t) (start : String) (key : TypeKey) :
    (∀ n ∈ t.nodes, ∀ path, (key, path) ∈ n.types → t.pathOf start key = .ok path) ∧
    ((∀ n ∈ t.nodes, key ∉ n.types.map Prod.fst) →
      t.pathOf start key = .error (.typeNotFound key)) ∧
    ∀ other, t.pathOf other key = t.pathOf start key := by
  obtain ⟨h, -, -⟩ := built_of_build hbuild
  refine ⟨fun n hn path hentry => h.pathOf_complete hn hentry start,
    fun hnone => h.pathOf_eq_error hnone start, fun other => ?_⟩
  by_cases hplaced : ∃ n ∈ t.nodes, key ∈ n.types.map Prod.fst
  · obtain ⟨n, hn, hkey⟩ := hplaced
    obtain ⟨⟨same, path⟩, hentry, rfl⟩ := List.mem_map.mp hkey
    rw [h.pathOf_complete hn hentry other, h.pathOf_complete hn hentry start]
  · have hnone : ∀ n ∈ t.nodes, key ∉ n.types.map Prod.fst :=
      fun n hn hkey => hplaced ⟨n, hn, hkey⟩
    rw [h.pathOf_eq_error hnone other, h.pathOf_eq_error hnone start]

theorem pathOf_of_build_sample :
    ∃ t, build (fun _ => true) Sample.catalog ⟨"dsdl/demo"⟩ sampleLayout = .ok t ∧
      t.pathOf "elsewhere" Sample.reading = .ok ⟨"out/demo/sensors/Reading_1_0.h"⟩ := by
  obtain ⟨t, hbuild, -, hnodes⟩ := exists_sampleTree
  refine ⟨t, hbuild, ?_⟩
  have hsensors : ("demo.sensors", [(Sample.reading, ⟨"out/demo/sensors/Reading_1_0.h"⟩)]) ∈
      t.nodes.map fun n => (n.fullName, n.types) := by
    rw [hnodes]
    simp
  obtain ⟨n, hn, hfields⟩ := List.mem_map.mp hsensors
  refine (pathOf_of_build hbuild "elsewhere" Sample.reading).1 n hn _ ?_
  rw [(Prod.mk.inj hfields).2]
  exact List.mem_singleton_self _

end SchemaForge.Tree
