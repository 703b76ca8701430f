import SchemaForge.Proofs.Namespace.Building
import SchemaForge.Schema.Sample

/-! The shape of a built tree: which nodes there are, what they hold, how they are linked, and the
one node at the top that every way up leads to. -/

namespace SchemaForge

section Results

variable {ε α β : Type} {x : Except ε α}

/-- A fact about the result of a computation is a fact about what it ends with. -/
theorem exists_of_map_eq_ok {f : α → β} {b : β} (h : x.map f = .ok b) :
    ∃ a, x = .ok a ∧ f a = b := by
  cases x with
  | error e => cases h
  | ok a => exact ⟨a, rfl, Except.ok.inj h⟩

theorem exists_of_any {f : α → Bool} (h : x.toOption.any f = true) :
    ∃ a, x = .ok a ∧ f a = true := by
  cases x with
  | error e => cases h
  | ok a => exact ⟨a, rfl, h⟩

end Results

namespace Tree

structure Built (t : Tree) (layout : Layout) : Prop where
  distinct : (names t.nodes).Nodup
  names : ∀ x, x ∈ names t.nodes ↔ Wanted (t.catalog.typesBelow t.rootName) t.rootName x
  files : ∀ n ∈ t.nodes, n.outputPath = layout.spacePath n.fullName
  types : ∀ n ∈ t.nodes, n.types = layout.entries (t.catalog.typesBelow t.rootName) n.fullName
  parent : ∀ n ∈ t.nodes, n.parent = Text.parentName? n.fullName
  children : ∀ n ∈ t.nodes, ∀ child,
    child ∈ n.children ↔ child ∈ Tree.names t.nodes ∧ Text.parentName? child = some n.fullName
  sorted : ∀ n ∈ t.nodes, n.children.Pairwise (Ordered.byText · · = true)

variable {t : Tree} {layout : Layout}

theorem built_of_build {hasDir : Path → Bool} {catalog : Catalog} {rootDir : Path}
    (h : build hasDir catalog rootDir layout = .ok t) :
    t.Built layout ∧ t.catalog = catalog ∧ rootDir.fileName? = some t.rootName := by
  unfold build at h
  split at h
  · cases h
  · rename_i root hroot
    have hends := buildNodes_ends ⟨hasDir, rootDir.parent?.getD ⟨""⟩, layout⟩ catalog root
    cases hnodes : buildNodes ⟨hasDir, rootDir.parent?.getD ⟨""⟩, layout⟩ catalog root with
    | error e =>
      rw [hnodes] at h
      cases h
    | ok nodes =>
      rw [hnodes] at h hends
      cases h
      obtain ⟨hgrown, hnames⟩ := hends
      refine ⟨⟨hgrown.distinct, hnames, hgrown.files, hgrown.types, ?_, hgrown.children,
        hgrown.sorted⟩, rfl, hroot⟩
      intro n hn
      apply Option.ext
      intro p
      have hname : n.fullName ∈ names nodes := mem_names.mpr ⟨n, hn, rfl⟩
      rw [hgrown.parent n hn p, and_iff_right hname]

theorem atOrAbove_of_mem_typesBelow {catalog : Catalog} {root : String} {ty : CompositeType}
    (h : ty ∈ catalog.typesBelow root) : Text.AtOrAbove root ty.namespaceName := by
  have hbelow := (List.mem_filter.mp h).2
  unfold CompositeType.isBelow at hbelow
  rw [Bool.and_eq_true, List.isPrefixOf_iff_prefix, ← Text.atOrAbove_iff_components] at hbelow
  exact hbelow.2

theorem Wanted.root_or {catalog : Catalog} {root name : String}
    (h : Wanted (catalog.typesBelow root) root name) :
    Text.AtOrAbove name root ∨ Text.AtOrAbove root name := by
  rcases h with h | ⟨ty, hty, h⟩
  · exact Or.inl h
  · exact h.total (atOrAbove_of_mem_typesBelow hty)

theorem Wanted.above {placed : List CompositeType} {root name upper : String}
    (h : Wanted placed root name) (hupper : Text.AtOrAbove upper name) :
    Wanted placed root upper := by
  rcases h with h | ⟨ty, hty, h⟩
  · exact Or.inl (hupper.trans h)
  · exact Or.inr ⟨ty, hty, hupper.trans h⟩

namespace Built

variable {n m : Namespace} {name : String}

theorem eq_of_fullName (h : t.Built layout) (hn : n ∈ t.nodes) (hm : m ∈ t.nodes)
    (hname : n.fullName = m.fullName) : n = m :=
  List.inj_on_of_nodup_map h.distinct hn hm hname

theorem get?_eq_some_iff (h : t.Built layout) :
    t.get? name = some n ↔ n ∈ t.nodes ∧ n.fullName = name := by
  refine ⟨mem_of_get?, ?_⟩
  rintro ⟨hn, rfl⟩
  cases hget : t.get? n.fullName with
  | none => exact absurd (List.find?_eq_none.mp hget n hn) (by simp)
  | some m =>
    obtain ⟨hm, hname⟩ := mem_of_get? hget
    rw [h.eq_of_fullName hm hn hname]

theorem exists_get? (h : t.Built layout)
    (hname : Wanted (t.catalog.typesBelow t.rootName) t.rootName name) :
    ∃ n, t.get? name = some n := by
  obtain ⟨n, hn, hfull⟩ := mem_names.mp ((h.names name).mpr hname)
  exact ⟨n, h.get?_eq_some_iff.mpr ⟨hn, hfull⟩⟩

theorem wanted (h : t.Built layout) (hn : n ∈ t.nodes) :
    Wanted (t.catalog.typesBelow t.rootName) t.rootName n.fullName :=
  (h.names n.fullName).mp (mem_names.mpr ⟨n, hn, rfl⟩)

theorem exists_root (h : t.Built layout) : ∃ n, t.root? = some n :=
  h.exists_get? (Or.inl (Text.AtOrAbove.refl t.rootName))

theorem climb (h : t.Built layout) (hn : n ∈ t.nodes) :
    ∃ top ∈ t.nodes, t.climb n = some top ∧ top.parent = none := by
  fun_induction Tree.climb t n with
  | case1 n htop => exact ⟨n, hn, rfl, htop⟩
  | case2 n p hparent hnone =>
    rw [h.parent n hn] at hparent
    obtain ⟨m, hm⟩ := h.exists_get? ((h.wanted hn).above (Text.AtOrAbove.of_parentName? hparent))
    rw [hm] at hnone
    cases hnone
  | case3 n p hparent m hm ih => exact ih (mem_of_get? hm).1

theorem eq_of_parent_none (h : t.Built layout) (hn : n ∈ t.nodes) (hm : m ∈ t.nodes)
    (hntop : n.parent = none) (hmtop : m.parent = none) : n = m := by
  rw [h.parent n hn] at hntop
  rw [h.parent m hm] at hmtop
  have habove : ∀ {x : String}, Wanted (t.catalog.typesBelow t.rootName) t.rootName x →
      Text.parentName? x = none → Text.AtOrAbove x t.rootName := by
    intro x hx hnone
    rcases hx.root_or with hx | hx
    · exact hx
    · rw [hx.eq_of_parentName?_none hnone]
      exact Text.AtOrAbove.refl x
  apply h.eq_of_fullName hn hm
  rcases (habove (h.wanted hn) hntop).total (habove (h.wanted hm) hmtop) with hline | hline
  · exact hline.eq_of_parentName?_none hmtop
  · exact (hline.eq_of_parentName?_none hntop).symm

theorem exists_top (h : t.Built layout) :
    ∃ top ∈ t.nodes, (∀ n ∈ t.nodes, n.parent = none ↔ n = top) ∧
      ∀ n ∈ t.nodes, t.rootOf? n.fullName = some top := by
  obtain ⟨root, hroot⟩ := h.exists_root
  obtain ⟨top, htop, -, hnone⟩ := h.climb (mem_of_get? hroot).1
  refine ⟨top, htop, fun n hn => ⟨?_, ?_⟩, fun n hn => ?_⟩
  · exact fun hparent => h.eq_of_parent_none hn htop hparent hnone
  · rintro rfl
    exact hnone
  · obtain ⟨m, hm, hclimb, hmtop⟩ := h.climb hn
    unfold rootOf?
    rw [h.get?_eq_some_iff.mpr ⟨hn, rfl⟩, Option.bind_some, hclimb,
      h.eq_of_parent_none hm htop hmtop hnone]

theorem mem_types (h : t.Built layout) (hn : n ∈ t.nodes) {key : TypeKey} {path : Path} :
    (key, path) ∈ n.types ↔
      (∃ ty ∈ t.catalog.typesBelow t.rootName, ty.key = key ∧ ty.namespaceName = n.fullName) ∧
        path = layout.typePath key := by
  rw [h.types n hn]
  simp only [Layout.entries, List.mem_map, List.mem_filter, decide_eq_true_eq, Prod.mk.injEq]
  constructor
  · rintro ⟨ty, ⟨hty, hname⟩, rfl, rfl⟩
    exact ⟨⟨ty, hty, rfl, hname⟩, rfl⟩
  · rintro ⟨⟨ty, hty, rfl, hname⟩, rfl⟩
    exact ⟨ty, ⟨hty, hname⟩, rfl, rfl⟩

theorem mem_keys (h : t.Built layout) (hn : n ∈ t.nodes) {key : TypeKey} :
    key ∈ n.types.map Prod.fst ↔
      key.namespaceName = n.fullName ∧ ∃ ty ∈ t.catalog.typesBelow t.rootName, ty.key = key := by
  rw [List.mem_map, Prod.exists]
  simp only [h.mem_types hn]
  constructor
  · rintro ⟨other, path, ⟨⟨ty, hty, rfl, hname⟩, -⟩, rfl⟩
    exact ⟨hname, ty, hty, rfl⟩
  · rintro ⟨hname, ty, hty, rfl⟩
    exact ⟨ty.key, _, ⟨⟨ty, hty, rfl, hname⟩, rfl⟩, rfl⟩

theorem existsUnique_owner (h : t.Built layout) {ty : CompositeType}
    (hty : ty ∈ t.catalog.typesBelow t.rootName) :
    ∃! n, n ∈ t.nodes ∧ ty.key ∈ n.types.map Prod.fst := by
  obtain ⟨n, hget⟩ := h.exists_get? (Or.inr ⟨ty, hty, Text.AtOrAbove.refl ty.namespaceName⟩)
  obtain ⟨hn, hname⟩ := mem_of_get? hget
  refine ⟨n, ⟨hn, (h.mem_keys hn).mpr ⟨hname.symm, ty, hty, rfl⟩⟩, ?_⟩
  rintro m ⟨hm, hkey⟩
  exact h.eq_of_fullName hm hn (((h.mem_keys hm).mp hkey).1.symm.trans hname.symm)

theorem parent_eq_some_iff (h : t.Built layout) (hn : n ∈ t.nodes) {p : String} :
    n.parent = some p ↔ ∃ last, n.fullName = p ++ "." ++ last ∧ '.' ∉ last.toList := by
  rw [h.parent n hn]
  exact Text.parentName?_eq_some_iff

theorem mem_children (h : t.Built layout) (hn : n ∈ t.nodes) :
    name ∈ n.children ↔ ∃ m ∈ t.nodes, m.fullName = name ∧ m.parent = some n.fullName := by
  rw [h.children n hn, mem_names]
  constructor
  · rintro ⟨⟨m, hm, rfl⟩, hparent⟩
    exact ⟨m, hm, rfl, (h.parent m hm).trans hparent⟩
  · rintro ⟨m, hm, rfl, hparent⟩
    exact ⟨⟨m, hm, rfl⟩, (h.parent m hm).symm.trans hparent⟩

theorem children_nodup (h : t.Built layout) (hn : n ∈ t.nodes) : n.children.Nodup := by
  refine (h.sorted n hn).imp fun hbefore hsame => ?_
  subst hsame
  simp [Ordered.byText] at hbefore

end Built

/-- A built tree has a node for each name cut off at a dot of the root's name or of a namespace
with types, holds every type in the node of its namespace, links each node with the one whose name
is shorter by the last component, and has one node at the top. -/
theorem build_shape {hasDir : Path → Bool} {catalog : Catalog} {rootDir : Path}
    (hbuild : build hasDir catalog rootDir layout = .ok t) :
    rootDir.fileName? = some t.rootName ∧
    (t.nodes.map (·.fullName)).Nodup ∧
    (∀ name, name ∈ t.nodes.map (·.fullName) ↔
      Text.AtOrAbove name t.rootName ∨
        ∃ ty ∈ catalog.typesBelow t.rootName, Text.AtOrAbove name ty.namespaceName) ∧
    (∀ n ∈ t.nodes, n.types =
      ((catalog.typesBelow t.rootName).filter (·.namespaceName = n.fullName)).map
        fun ty => (ty.key, layout.outputDir.join (layout.relativeTypePath ty.key))) ∧
    (∀ ty ∈ catalog.typesBelow t.rootName,
      ∃! n, n ∈ t.nodes ∧ ty.key ∈ n.types.map Prod.fst) ∧
    (∀ n ∈ t.nodes, (n.parent = none ↔ '.' ∉ n.fullName.toList) ∧
      ∀ p, n.parent = some p ↔ ∃ last, n.fullName = p ++ "." ++ last ∧ '.' ∉ last.toList) ∧
    (∀ n ∈ t.nodes, n.children.Nodup ∧ ∀ name, name ∈ n.children ↔
      ∃ m ∈ t.nodes, m.fullName = name ∧ m.parent = some n.fullName) ∧
    ∃ top ∈ t.nodes, (∀ n ∈ t.nodes, n.parent = none ↔ n = top) ∧
      (∀ n ∈ t.nodes, t.rootOf? n.fullName = some top) ∧
      ('.' ∉ t.rootName.toList → t.root? = some top) := by
  obtain ⟨h, rfl, hroot⟩ := built_of_build hbuild
  refine ⟨hroot, h.distinct, h.names, h.types, fun ty => h.existsUnique_owner, ?_, ?_, ?_⟩
  · intro n hn
    refine ⟨?_, fun p => h.parent_eq_some_iff hn⟩
    rw [h.parent n hn]
    exact Text.parentName?_eq_none_iff
  · intro n hn
    exact ⟨h.children_nodup hn, fun name => h.mem_children hn⟩
  · obtain ⟨top, htop, hnone, hrootOf⟩ := h.exists_top
    refine ⟨top, htop, hnone, hrootOf, fun hdotless => ?_⟩
    obtain ⟨root, hget⟩ := h.exists_root
    obtain ⟨hmem, hname⟩ := mem_of_get? hget
    have hparent : root.parent = none := by
      rw [h.parent root hmem, hname]
      exact Text.parentName?_eq_none_iff.mpr hdotless
    rw [hget, (hnone root hmem).mp hparent]

def sampleLayout : Layout where
  outputDir := ⟨"out"⟩
  extension := ".h"
  namespaceStem := "_"
  encoder := ⟨false, [], [], [], false, false, [], []⟩

theorem exists_sampleTree :
    ∃ t, build (fun _ => true) Sample.catalog ⟨"dsdl/demo"⟩ sampleLayout = .ok t ∧
      t.rootName = "demo" ∧
      t.nodes.map (fun n => (n.fullName, n.types)) = [
        ("demo", [(Sample.heartbeat, ⟨"out/demo/Heartbeat_1_0.h"⟩),
          (Sample.ping, ⟨"out/demo/Ping_1_0.h"⟩)]),
        ("demo.if", [(Sample.value, ⟨"out/demo/if/Value_1_0.h"⟩)]),
        ("demo.sensors", [(Sample.reading, ⟨"out/demo/sensors/Reading_1_0.h"⟩)])] := by
  obtain ⟨t, hbuild, hfields⟩ := exists_of_map_eq_ok (show
    (build (fun _ => true) Sample.catalog ⟨"dsdl/demo"⟩ sampleLayout).map
      (fun t => (t.rootName, t.nodes.map fun n => (n.fullName, n.types))) =
        .ok ("demo", [
          ("demo", [(Sample.heartbeat, ⟨"out/demo/Heartbeat_1_0.h"⟩),
            (Sample.ping, ⟨"out/demo/Ping_1_0.h"⟩)]),
          ("demo.if", [(Sample.value, ⟨"out/demo/if/Value_1_0.h"⟩)]),
          ("demo.sensors", [(Sample.reading, ⟨"out/demo/sensors/Reading_1_0.h"⟩)])])
    by decide +kernel)
  exact ⟨t, hbuild, Prod.mk.inj hfields⟩

theorem build_shape_sample :
    ∃ t, build (fun _ => true) Sample.catalog ⟨"dsdl/demo"⟩ sampleLayout = .ok t ∧
      ∃ top ∈ t.nodes, (∀ n ∈ t.nodes, n.parent = none ↔ n = top) ∧ t.root? = some top := by
  obtain ⟨t, hbuild, hdemo, -⟩ := exists_sampleTree
  obtain ⟨-, -, -, -, -, -, -, top, htop, hnone, -, hroot⟩ := build_shape hbuild
  refine ⟨t, hbuild, top, htop, hnone, hroot ?_⟩
  rw [hdemo]
  decide

def single (outputDir : Path) : Except GenerationError Tree :=
  build (fun _ => true)
    { types := [Sample.composite Sample.heartbeat .struct [] none], distinct := by decide }
    ⟨"dsdl/demo"⟩ { sampleLayout with outputDir }

end Tree

end SchemaForge
