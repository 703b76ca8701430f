import SchemaForge.Namespace.Walk
import SchemaForge.Proofs.Namespace.Search
import SchemaForge.Proofs.Schema.Reachability
import SchemaForge.Proofs.Text.ByteOrder

/-! Walking a built tree. A stack whose names branch in order is worked off into a list of
namespaces in the order of their components, and from the root the list holds every namespace at or
below it. What is walked through follows from that list. -/

namespace SchemaForge

theorem Text.branches_of_siblings {s t upper : String} (hs : Text.parentName? s = some upper)
    (ht : Text.parentName? t = some upper) (hlt : s < t) :
    BranchesBefore Utf8.Before (Text.components s) (Text.components t) := by
  obtain ⟨last, rfl, hlast⟩ := Text.parentName?_eq_some_iff.mp hs
  obtain ⟨last', rfl, hlast'⟩ := Text.parentName?_eq_some_iff.mp ht
  rw [Text.components_append hlast, Text.components_append hlast']
  refine ⟨Text.components upper, last, last', Utf8.before_of_lt ?_, List.prefix_rfl,
    List.prefix_rfl⟩
  have hcommon : ∀ lead cs ds : List Char, lead ++ cs < lead ++ ds → cs < ds := by
    intro lead cs ds h
    induction lead with
    | nil => exact h
    | cons c lead ih =>
      rcases List.cons_lt_cons_iff.mp h with hc | ⟨-, h⟩
      · exact absurd hc (Char.lt_irrefl c)
      · exact ih h
  rw [String.lt_iff] at hlt ⊢
  simp only [String.toList_append] at hlt
  exact hcommon _ _ _ hlt

def Entity.isType : Entity → Bool
  | type _ => true
  | space _ => false

namespace Tree

/-- Two namespaces in the order of their components, these in the order of their bytes. -/
def Precedes (n m : Namespace) : Prop :=
  List.Lex Utf8.Before n.components m.components

variable {t : Tree} {layout : Layout} {n m : Namespace} {stack : List Namespace}

theorem components_prefix_of_leads (h : t.Leads n m) : n.components <+: m.components := by
  induction h with
  | refl => exact List.prefix_rfl
  | tail _ hchild ih =>
    have habove := Text.AtOrAbove.of_parentName? (mem_childrenOf hchild).2
    exact ih.trans (Text.atOrAbove_iff_components.mp habove)

theorem precedes_of_mem_childrenOf {child : Namespace} (hchild : child ∈ t.childrenOf n)
    (h : t.Leads child m) : Precedes n m := by
  refine lex_of_prefix (components_prefix_of_leads (h.head hchild)) fun hsame => ?_
  have hlonger := (components_prefix_of_leads h).length_le
  obtain ⟨last, hname, hlast⟩ := Text.parentName?_eq_some_iff.mp (mem_childrenOf hchild).2
  unfold Namespace.components at hsame hlonger
  rw [← hsame, hname, Text.components_append hlast, List.length_append] at hlonger
  exact Nat.not_succ_le_self _ hlonger

theorem mem_preorder : m ∈ t.preorder stack ↔ ∃ n ∈ stack, t.Leads n m := by
  fun_induction preorder t stack with
  | case1 => simp
  | case2 n rest ih =>
    rw [List.mem_cons, ih]
    constructor
    · rintro (rfl | ⟨k, hk, hleads⟩)
      · exact ⟨m, List.mem_cons_self, Relation.ReflTransGen.refl⟩
      · rcases List.mem_append.mp hk with hk | hk
        · exact ⟨n, List.mem_cons_self, hleads.head hk⟩
        · exact ⟨k, List.mem_cons_of_mem n hk, hleads⟩
    · rintro ⟨k, hk, hleads⟩
      rcases List.mem_cons.mp hk with rfl | hk
      · rcases Relation.ReflTransGen.cases_head hleads with rfl | ⟨child, hchild, hleads⟩
        · exact Or.inl rfl
        · exact Or.inr ⟨child, List.mem_append_left rest hchild, hleads⟩
      · exact Or.inr ⟨k, List.mem_append_right _ hk, hleads⟩

namespace Built

theorem pairwise_childrenOf (h : t.Built layout) (hn : n ∈ t.nodes) :
    (t.childrenOf n).Pairwise fun m k => BranchesBefore Utf8.Before m.components k.components := by
  unfold childrenOf
  have hnames : n.children.Pairwise fun s s' =>
      BranchesBefore Utf8.Before (Text.components s) (Text.components s') := by
    refine (h.sorted n hn).imp_of_mem fun hs hs' hbefore => ?_
    exact Text.branches_of_siblings (n.children_below _ hs) (n.children_below _ hs')
      (of_decide_eq_true hbefore)
  refine hnames.filterMap _ fun s s' hbranches m hm k hk => ?_
  obtain ⟨-, rfl⟩ := mem_of_get? hm
  obtain ⟨-, rfl⟩ := mem_of_get? hk
  exact hbranches

/-- A stack of nodes that branch in order is worked off in order: what comes next is below the top
of the stack or branches off after it. -/
theorem pairwise_preorder (h : t.Built layout) (hnodes : ∀ n ∈ stack, n ∈ t.nodes)
    (hstack : stack.Pairwise fun n m => BranchesBefore Utf8.Before n.components m.components) :
    (t.preorder stack).Pairwise Precedes := by
  fun_induction preorder t stack with
  | case1 => exact List.Pairwise.nil
  | case2 n rest ih =>
    obtain ⟨hfirst, hrest⟩ := List.pairwise_cons.mp hstack
    have hn : n ∈ t.nodes := hnodes n List.mem_cons_self
    refine List.pairwise_cons.mpr ⟨?_, ih ?_ ?_⟩
    · intro m hm
      obtain ⟨k, hk, hleads⟩ := mem_preorder.mp hm
      rcases List.mem_append.mp hk with hk | hk
      · exact precedes_of_mem_childrenOf hk hleads
      · exact ((hfirst k hk).extend List.prefix_rfl (components_prefix_of_leads hleads)).lex
    · intro m hm
      rcases List.mem_append.mp hm with hm | hm
      · exact (mem_childrenOf hm).1
      · exact hnodes m (List.mem_cons_of_mem n hm)
    · refine List.pairwise_append.mpr ⟨h.pairwise_childrenOf hn, hrest, ?_⟩
      intro child hchild k hk
      have hbelow := components_prefix_of_leads (Relation.ReflTransGen.single hchild)
      exact (hfirst k hk).extend hbelow List.prefix_rfl

theorem mem_spaces (h : t.Built layout) :
    n ∈ t.spaces ↔ n ∈ t.nodes ∧ Text.components t.rootName <+: n.components := by
  obtain ⟨root, hroot⟩ := h.exists_root
  obtain ⟨hmem, hname⟩ := mem_of_get? hroot
  unfold spaces
  rw [hroot, mem_preorder, ← hname]
  constructor
  · rintro ⟨k, hk, hleads⟩
    obtain rfl : k = root := by simpa using hk
    exact ⟨mem_of_leads hmem hleads, components_prefix_of_leads hleads⟩
  · rintro ⟨hn, hbelow⟩
    have habove := Text.atOrAbove_iff_components.mpr hbelow
    exact ⟨root, by simp, h.leads_of_atOrAbove hmem hn habove⟩

theorem pairwise_spaces (h : t.Built layout) : t.spaces.Pairwise Precedes := by
  obtain ⟨root, hroot⟩ := h.exists_root
  unfold spaces
  rw [hroot]
  refine h.pairwise_preorder ?_ (List.pairwise_singleton _ root)
  intro n hn
  obtain rfl : n = root := by simpa using hn
  exact (mem_of_get? hroot).1

theorem mem_names_spaces (h : t.Built layout) {name : String} :
    name ∈ Tree.names t.spaces ↔
      Wanted (t.catalog.typesBelow t.rootName) t.rootName name ∧
        Text.components t.rootName <+: Text.components name := by
  rw [← h.names, mem_names, mem_names]
  simp only [h.mem_spaces]
  constructor
  · rintro ⟨n, ⟨hn, hbelow⟩, rfl⟩
    exact ⟨⟨n, hn, rfl⟩, hbelow⟩
  · rintro ⟨⟨n, hn, rfl⟩, hbelow⟩
    exact ⟨n, ⟨hn, hbelow⟩, rfl⟩

/-- Two trees with the same types below the same root are walked through in the same order. -/
theorem names_spaces_eq {t' : Tree} (h : t.Built layout) (h' : t'.Built layout)
    (hroot : t'.rootName = t.rootName) (htypes : t'.catalog.types.Perm t.catalog.types) :
    Tree.names t'.spaces = Tree.names t.spaces := by
  have hsorted : ∀ {u : Tree}, u.Built layout → (Tree.names u.spaces).Pairwise fun x y =>
      List.Lex Utf8.Before (Text.components x) (Text.components y) := by
    intro u hu
    exact List.pairwise_map.mpr hu.pairwise_spaces
  have hasymm : Std.Asymm fun x y : String =>
      List.Lex Utf8.Before (Text.components x) (Text.components y) :=
    ⟨fun _ _ hxy => asymm_of (List.Lex Utf8.Before) hxy⟩
  refine (hsorted h').eq_of_mem_iff (hsorted h) fun name => ?_
  have hbelow : ∀ ty,
      ty ∈ t'.catalog.typesBelow t.rootName ↔ ty ∈ t.catalog.typesBelow t.rootName := by
    intro ty
    unfold Catalog.typesBelow
    rw [List.mem_filter, List.mem_filter, htypes.mem_iff]
  rw [h'.mem_names_spaces, h.mem_names_spaces, hroot]
  unfold Wanted
  simp only [hbelow]

/-- The types met in a namespace are those placed in it, in the order of the catalog. -/
theorem typesOf_eq (h : t.Built layout) (hn : n ∈ t.nodes) :
    t.typesOf n = ((t.catalog.typesBelow t.rootName).filter (·.namespaceName = n.fullName)).map
      fun ty => (.type ty, layout.typePath ty.key) := by
  unfold typesOf
  rw [h.types n hn, Layout.entries, List.filterMap_map, ← List.filterMap_eq_map]
  refine List.filterMap_congr fun ty hty => ?_
  have hmem : ty ∈ t.catalog.types := (List.mem_filter.mp (List.mem_filter.mp hty).1).1
  simp [Catalog.get?_eq_some_iff.mpr ⟨hmem, rfl⟩]

end Built

section Kinds

theorem filter_isType_typesOf (t : Tree) (n : Namespace) :
    (t.typesOf n).filter (·.1.isType) = t.typesOf n := by
  rw [List.filter_eq_self]
  intro entry hentry
  obtain ⟨⟨key, path⟩, -, hget⟩ := List.mem_filterMap.mp hentry
  obtain ⟨ty, -, rfl⟩ := Option.map_eq_some_iff.mp hget
  rfl

theorem types_eq_filter (t : Tree) : t.types = t.entities.filter (·.1.isType) := by
  unfold types entities
  rw [List.filter_flatMap]
  refine congrArg (t.spaces.flatMap ·) (funext fun n => ?_)
  exact (t.filter_isType_typesOf n).symm

theorem namespaces_eq_filter (t : Tree) : t.namespaces = t.entities.filter (!·.1.isType) := by
  unfold namespaces entities
  rw [List.filter_flatMap, ← List.flatMap_pure_eq_map]
  refine congrArg (t.spaces.flatMap ·) (funext fun n => ?_)
  have hnone : (t.typesOf n).filter (!·.1.isType) = [] := by
    rw [← t.filter_isType_typesOf n, List.filter_filter]
    simp
  rw [List.filter_cons_of_pos rfl, hnone]
  rfl

end Kinds

/-- The types below the root in the order in which their namespaces are walked through. -/
def walkedTypes (t : Tree) : List CompositeType :=
  t.spaces.flatMap fun n => (t.catalog.typesBelow t.rootName).filter (·.namespaceName = n.fullName)

namespace Built

theorem types_eq_map (h : t.Built layout) :
    t.types = t.walkedTypes.map fun ty => (.type ty, layout.typePath ty.key) := by
  unfold Tree.types walkedTypes
  rw [List.map_flatMap]
  exact List.flatMap_congr fun n hn => h.typesOf_eq (h.mem_spaces.mp hn).1

theorem entities_eq (h : t.Built layout) :
    t.entities = t.spaces.flatMap fun n => (.space n, n.outputPath) ::
      ((t.catalog.typesBelow t.rootName).filter (·.namespaceName = n.fullName)).map
        fun ty => (.type ty, layout.typePath ty.key) := by
  unfold entities
  refine List.flatMap_congr fun n hn => ?_
  rw [h.typesOf_eq (h.mem_spaces.mp hn).1]

theorem mem_walkedTypes (h : t.Built layout) {ty : CompositeType} :
    ty ∈ t.walkedTypes ↔ ty ∈ t.catalog.typesBelow t.rootName := by
  unfold walkedTypes
  simp only [List.mem_flatMap, List.mem_filter, decide_eq_true_eq]
  constructor
  · rintro ⟨n, -, hty, -⟩
    exact hty
  · intro hty
    obtain ⟨n, hget⟩ := h.exists_get? (Or.inr ⟨ty, hty, Text.AtOrAbove.refl ty.namespaceName⟩)
    obtain ⟨hn, hname⟩ := mem_of_get? hget
    have hbelow := Text.atOrAbove_iff_components.mp (atOrAbove_of_mem_typesBelow hty)
    rw [← hname] at hbelow
    exact ⟨n, h.mem_spaces.mpr ⟨hn, hbelow⟩, hty, hname.symm⟩

theorem nodup_keys_typesBelow (catalog : Catalog) (root : String) :
    ((catalog.typesBelow root).map (·.key)).Nodup :=
  catalog.distinct.sublist (List.filter_sublist.map _)

/-- Every type below the root is met once: namespaces share no types and none is met twice. -/
theorem perm_walkedTypes (h : t.Built layout) :
    t.walkedTypes.Perm (t.catalog.typesBelow t.rootName) := by
  have hbelow := (nodup_keys_typesBelow t.catalog t.rootName).of_map
  refine (List.perm_ext_iff_of_nodup ?_ hbelow).mpr fun ty => h.mem_walkedTypes
  unfold walkedTypes
  rw [List.nodup_flatMap]
  refine ⟨fun n _ => hbelow.filter _, h.pairwise_spaces.imp fun {n m} hbefore => ?_⟩
  intro ty hn hm
  simp only [List.mem_filter, decide_eq_true_eq] at hn hm
  unfold Precedes Namespace.components at hbefore
  rw [← hn.2, ← hm.2] at hbefore
  exact irrefl_of (List.Lex Utf8.Before) _ hbefore

end Built

/-- Walking a built tree lists the namespaces at and below the root in the order of their
components, whatever the order of the catalog, each followed by its own types in catalog order;
the walks over namespaces only and over types only leave out the rest. So every placed type is met
once, with the file that a lookup finds for it. -/
theorem walk_of_build {hasDir : Path → Bool} {catalog : Catalog} {rootDir : Path}
    (hbuild : build hasDir catalog rootDir layout = .ok t) :
    t.namespaces = t.spaces.map (fun n => (.space n, n.outputPath)) ∧
    (∀ n, n ∈ t.spaces ↔
      n ∈ t.nodes ∧ Text.components t.rootName <+: Text.components n.fullName) ∧
    t.spaces.Pairwise (fun n m =>
      List.Lex Utf8.Before (Text.components n.fullName) (Text.components m.fullName)) ∧
    (∀ catalog' t', catalog'.types.Perm catalog.types →
      build hasDir catalog' rootDir layout = .ok t' →
        t'.spaces.map (·.fullName) = t.spaces.map (·.fullName)) ∧
    t.entities = t.spaces.flatMap (fun n => (.space n, n.outputPath) ::
      ((catalog.typesBelow t.rootName).filter (·.namespaceName = n.fullName)).map
        fun ty => (.type ty, layout.typePath ty.key)) ∧
    t.types = t.entities.filter (·.1.isType) ∧
    t.namespaces = t.entities.filter (!·.1.isType) ∧
    ∃ walked : List CompositeType,
      t.types = walked.map (fun ty => (.type ty, layout.typePath ty.key)) ∧
      walked.Perm (catalog.typesBelow t.rootName) ∧ (walked.map (·.key)).Nodup ∧
      (∀ key, key ∈ walked.map (·.key) ↔ ∃ n ∈ t.nodes, key ∈ n.types.map Prod.fst) ∧
      ∀ ty ∈ walked, ∀ start, t.pathOf start ty.key = .ok (layout.typePath ty.key) := by
  obtain ⟨h, rfl, hroot⟩ := built_of_build hbuild
  refine ⟨rfl, fun n => h.mem_spaces, h.pairwise_spaces, ?_, h.entities_eq, t.types_eq_filter,
    t.namespaces_eq_filter, t.walkedTypes, h.types_eq_map, h.perm_walkedTypes, ?_, ?_, ?_⟩
  · intro catalog' t' htypes hbuild'
    obtain ⟨h', rfl, hroot'⟩ := built_of_build hbuild'
    exact h.names_spaces_eq h' (Option.some.inj (hroot'.symm.trans hroot)) htypes
  · exact ((h.perm_walkedTypes.map _).nodup_iff).mpr (Built.nodup_keys_typesBelow _ _)
  · intro key
    rw [List.mem_map]
    simp only [h.mem_walkedTypes]
    constructor
    · rintro ⟨ty, hty, rfl⟩
      obtain ⟨n, ⟨hn, hkey⟩, -⟩ := h.existsUnique_owner hty
      exact ⟨n, hn, hkey⟩
    · rintro ⟨n, hn, hkey⟩
      exact ((h.mem_keys hn).mp hkey).2
  · intro ty hty start
    obtain ⟨n, ⟨hn, hkey⟩, -⟩ := h.existsUnique_owner (h.mem_walkedTypes.mp hty)
    obtain ⟨⟨key, path⟩, hentry, hsame⟩ := List.mem_map.mp hkey
    obtain rfl : key = ty.key := hsame
    rw [h.pathOf_complete hn hentry start, ((h.mem_types hn).mp hentry).2]

theorem walk_of_build_sample :
    ∃ t, build (fun _ => true) Sample.catalog ⟨"dsdl/demo"⟩ sampleLayout = .ok t ∧
      t.spaces.Pairwise (fun n m =>
        List.Lex Utf8.Before (Text.components n.fullName) (Text.components m.fullName)) ∧
      t.types.length = 4 := by
  obtain ⟨t, hbuild, hdemo, -⟩ := exists_sampleTree
  obtain ⟨-, -, hsorted, -, -, -, -, walked, htypes, hperm, -⟩ := walk_of_build hbuild
  refine ⟨t, hbuild, hsorted, ?_⟩
  rw [htypes, List.length_map, hperm.length_eq, hdemo]
  decide +kernel

end Tree

end SchemaForge
