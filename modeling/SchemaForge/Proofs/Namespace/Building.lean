import Mathlib.Data.List.Nodup
import Mathlib.Tactic.Common
import SchemaForge.Namespace.Building
import SchemaForge.Proofs.Text.Dotted

/-! How trees grow. One invariant tells what the nodes hold, in terms of the types placed and the
names linked so far. Making a node keeps it, placing a type and linking a name each move it on by
one, and a run of the builder takes it from nothing to every type and every name. -/

namespace SchemaForge

/-- How a computation ends: with a result that is good or with an error that is bad. -/
def Ends {ε α : Type} (r : Except ε α) (bad : ε → Prop) (good : α → Prop) : Prop :=
  match r with
  | .ok a => good a
  | .error e => bad e

namespace Ends

variable {ε α β : Type} {r : Except ε α} {bad : ε → Prop} {good : α → Prop}

theorem imp {good' : α → Prop} (h : Ends r bad good) (himp : ∀ a, good a → good' a) :
    Ends r bad good' := by
  cases r with
  | ok a => exact himp a h
  | error e => exact h

theorem bind {f : α → Except ε β} {good' : β → Prop} (h : Ends r bad good)
    (hf : ∀ a, good a → Ends (f a) bad good') : Ends (r >>= f) bad good' := by
  cases r with
  | ok a => exact hf a h
  | error e => exact h

/-- A run of steps moves on an invariant that tells of the items done. -/
theorem foldlM {f : α → β → Except ε α} {items : List β} (I : List β → α → Prop)
    (hstep : ∀ done b rest a, items = done ++ b :: rest → I done a →
      Ends (f a b) bad (I (done ++ [b]))) {a : α} (h : I [] a) :
    Ends (items.foldlM f a) bad (I items) := by
  have hrun : ∀ done rest a, items = done ++ rest → I done a →
      Ends (rest.foldlM f a) bad (I items) := by
    intro done rest
    induction rest generalizing done with
    | nil =>
      rintro a hitems ha
      rw [List.append_nil] at hitems
      exact hitems ▸ ha
    | cons b rest ih =>
      intro a hitems ha
      rw [List.foldlM_cons]
      refine (hstep done b rest a hitems ha).bind fun a' ha' => ?_
      exact ih (done ++ [b]) a' (by simpa using hitems) ha'
  exact hrun [] items a rfl h

end Ends

/-- Whether a type gets a place below a root: its namespace is the root or further down, and it is
no part of a service. -/
def CompositeType.isBelow (root : String) (t : CompositeType) : Bool :=
  t.parentService.isNone && (Text.components root).isPrefixOf (Text.components t.namespaceName)

def Catalog.typesBelow (c : Catalog) (root : String) : List CompositeType :=
  c.types.filter (·.isBelow root)

def Layout.entries (l : Layout) (placed : List CompositeType) (name : String) :
    List (TypeKey × Path) :=
  (placed.filter (·.namespaceName = name)).map fun t => (t.key, l.typePath t.key)

def Layout.spacePath (l : Layout) (name : String) : Path :=
  (l.outputDir.join (l.relativeFolder (Text.components name))).join ⟨l.namespaceFileName⟩

theorem Layout.entries_append (l : Layout) (placed more : List CompositeType) (name : String) :
    l.entries (placed ++ more) name = l.entries placed name ++ l.entries more name := by
  simp [entries]

theorem Layout.entries_eq_nil {l : Layout} {placed : List CompositeType} {name : String}
    (h : ∀ t ∈ placed, t.namespaceName ≠ name) : l.entries placed name = [] := by
  simpa [entries] using h

namespace Tree

/-- The names that a tree needs: of the root, of the types' namespaces, and all above them. -/
def Wanted (placed : List CompositeType) (root name : String) : Prop :=
  Text.AtOrAbove name root ∨ ∃ t ∈ placed, Text.AtOrAbove name t.namespaceName

def names (nodes : List Namespace) : List String :=
  nodes.map (·.fullName)

/-- What the nodes hold when the given types have been placed and the given names linked. -/
structure Grown (s : Site) (placed : List CompositeType) (linked : List String)
    (nodes : List Namespace) : Prop where
  distinct : (names nodes).Nodup
  dirs : ∀ n ∈ nodes, s.hasDir (s.sourceDir n.fullName) = true
  files : ∀ n ∈ nodes, n.outputPath = s.layout.spacePath n.fullName
  homes : ∀ t ∈ placed, t.namespaceName ∈ names nodes
  types : ∀ n ∈ nodes, n.types = s.layout.entries placed n.fullName
  parent : ∀ n ∈ nodes, ∀ p,
    n.parent = some p ↔ n.fullName ∈ linked ∧ Text.parentName? n.fullName = some p
  children : ∀ n ∈ nodes, ∀ child,
    child ∈ n.children ↔ child ∈ linked ∧ Text.parentName? child = some n.fullName
  sorted : ∀ n ∈ nodes, n.children.Pairwise (Ordered.byText · · = true)

def Lacks (s : Site) (wanted : String → Prop) (e : GenerationError) : Prop :=
  ∃ name, wanted name ∧ s.hasDir (s.sourceDir name) = false ∧
    e = .sourceNotFound name (s.sourceDir name)

variable {s : Site} {placed : List CompositeType} {linked : List String} {nodes : List Namespace}
  {wanted : String → Prop} {name : String}

theorem mem_names : name ∈ names nodes ↔ ∃ n ∈ nodes, n.fullName = name :=
  List.mem_map

theorem hasNode_iff : hasNode nodes name = true ↔ name ∈ names nodes := by
  simp [hasNode, names]

theorem isWithin_iff {root space : String} :
    isWithin root space = true ↔ Text.components root <+: Text.components space := by
  rw [← Text.atOrAbove_iff_components]
  unfold isWithin Text.AtOrAbove
  simp only [Bool.or_eq_true, decide_eq_true_eq, List.isPrefixOf_iff_prefix]
  refine or_congr_right ⟨?_, ?_⟩
  · rintro ⟨rest, hrest⟩
    refine ⟨String.ofList rest, ?_⟩
    rw [← String.toList_inj, ← hrest]
    simp
  · rintro ⟨rest, rfl⟩
    exact ⟨rest.toList, by simp⟩

section Update

variable {change : (n : Namespace) → n.fullName = name → Namespace}

theorem mem_update {m : Namespace} :
    m ∈ update nodes name change ↔
      (∃ n ∈ nodes, ∃ h : n.fullName = name, change n h = m) ∨ m ∈ nodes ∧ m.fullName ≠ name := by
  unfold update
  rw [List.mem_map]
  constructor
  · rintro ⟨n, hn, rfl⟩
    by_cases h : n.fullName = name
    · rw [dif_pos h]
      exact Or.inl ⟨n, hn, h, rfl⟩
    · rw [dif_neg h]
      exact Or.inr ⟨hn, h⟩
  · rintro (⟨n, hn, h, rfl⟩ | ⟨hm, h⟩)
    · exact ⟨n, hn, dif_pos h⟩
    · exact ⟨m, hm, dif_neg h⟩

theorem forall_update {P : Namespace → Prop} (h : ∀ n ∈ nodes, P n)
    (hchange : ∀ n hn, P n → P (change n hn)) : ∀ m ∈ update nodes name change, P m := by
  intro m hm
  rcases mem_update.mp hm with ⟨n, hn, hname, rfl⟩ | ⟨hm, -⟩
  · exact hchange n hname (h n hn)
  · exact h m hm

theorem names_update (hchange : ∀ n h, (change n h).fullName = n.fullName) :
    names (update nodes name change) = names nodes := by
  unfold names update
  rw [List.map_map]
  apply List.map_congr_left
  intro n _
  by_cases h : n.fullName = name
  · simp [h, hchange]
  · simp [h]

end Update

namespace Grown

theorem nil : Grown s [] [] [] := by
  constructor <;> simp [names]

/-- A new node takes nothing from the others, and no type placed so far is at home in it. -/
theorem append (h : Grown s placed [] nodes) (hdir : s.hasDir (s.sourceDir name) = true)
    (hnew : name ∉ names nodes) : Grown s placed [] (nodes ++ [s.namespaceOf name]) where
  distinct := by
    unfold names
    rw [List.map_append]
    refine h.distinct.append (List.nodup_singleton _) ?_
    simpa [Site.namespaceOf] using hnew
  dirs := by
    simpa [or_imp, forall_and, Site.namespaceOf] using ⟨h.dirs, hdir⟩
  files := by
    have hfile : (s.namespaceOf name).outputPath = s.layout.spacePath name := rfl
    simpa [or_imp, forall_and, hfile] using ⟨h.files, rfl⟩
  homes := by
    intro t ht
    unfold names
    rw [List.map_append]
    exact List.mem_append_left _ (h.homes t ht)
  types := by
    have hempty : s.layout.entries placed name = [] := by
      apply Layout.entries_eq_nil
      rintro t ht rfl
      exact hnew (h.homes t ht)
    simpa [or_imp, forall_and, Site.namespaceOf, hempty] using h.types
  parent := by
    simpa [or_imp, forall_and, Site.namespaceOf] using h.parent
  children := by
    simpa [or_imp, forall_and, Site.namespaceOf] using h.children
  sorted := by
    simpa [or_imp, forall_and, Site.namespaceOf] using h.sorted

end Grown

theorem ensure_ends (h : Grown s placed [] nodes) (hwanted : wanted name) :
    Ends (ensure s nodes name) (Lacks s wanted) fun nodes' =>
      Grown s placed [] nodes' ∧ ∀ x, x ∈ names nodes' ↔ x ∈ names nodes ∨ x = name := by
  unfold ensure
  split
  · rename_i hknown
    refine ⟨h, fun x => ⟨Or.inl, ?_⟩⟩
    rintro (hx | rfl)
    · exact hx
    · exact hasNode_iff.mp hknown
  · rename_i hnew
    split
    · rename_i hdir
      refine ⟨h.append hdir (mt hasNode_iff.mpr hnew), fun x => ?_⟩
      simp [names, Site.namespaceOf]
    · rename_i hdir
      exact ⟨name, hwanted, by simpa using hdir, rfl⟩

/-! Placing the types. -/

theorem isWithin_and_isNone {root : String} {t : CompositeType} :
    (isWithin root t.namespaceName && t.parentService.isNone) = t.isBelow root := by
  rw [Bool.eq_iff_iff]
  simp only [CompositeType.isBelow, Bool.and_eq_true, isWithin_iff, List.isPrefixOf_iff_prefix]
  exact and_comm

theorem isPlaced_eq_false (h : Grown s placed linked nodes) {key : TypeKey}
    (hkey : key ∉ placed.map (·.key)) : isPlaced nodes name key = false := by
  unfold isPlaced
  rw [List.any_eq_false]
  intro n hn hplaced
  rw [Bool.and_eq_true, Namespace.pathFor?, List.lookup_isSome_iff, h.types n hn] at hplaced
  obtain ⟨-, entry, hentry, hsame⟩ := hplaced
  obtain ⟨t, ht, rfl⟩ := List.mem_map.mp hentry
  exact hkey (List.mem_map.mpr ⟨t, (List.mem_filter.mp ht).1, (beq_iff_eq.mp hsame).symm⟩)

theorem names_addType {key : TypeKey} {path : Path} :
    names (update nodes name fun n _ => n.addType key path) = names nodes :=
  names_update fun _ _ => rfl

theorem Grown.addType (h : Grown s placed [] nodes) {t : CompositeType}
    (hhome : t.namespaceName ∈ names nodes) :
    Grown s (placed ++ [t]) []
      (update nodes t.namespaceName fun n _ => n.addType t.key (s.layout.typePath t.key)) := by
  refine ⟨?_, forall_update h.dirs fun _ _ hn => hn, forall_update h.files fun _ _ hn => hn, ?_, ?_,
    forall_update h.parent fun _ _ hn => hn, forall_update h.children fun _ _ hn => hn,
    forall_update h.sorted fun _ _ hn => hn⟩
  · rw [names_addType]
    exact h.distinct
  · intro u hu
    rw [names_addType]
    rcases List.mem_append.mp hu with hu | hu
    · exact h.homes u hu
    · rw [List.mem_singleton.mp hu]
      exact hhome
  · intro m hm
    rw [Layout.entries_append]
    rcases mem_update.mp hm with ⟨n, hn, hname, rfl⟩ | ⟨hm, hname⟩
    · simp only [Namespace.addType, h.types n hn, Layout.entries, hname, List.filter_cons,
        decide_true, if_true, List.filter_nil, List.map_cons, List.map_nil]
    · have hnone : s.layout.entries [t] m.fullName = [] := by
        apply Layout.entries_eq_nil
        simpa using Ne.symm hname
      rw [h.types m hm, hnone, List.append_nil]

/-- Placing a type below the root puts it last, and every other leaves the nodes as they are. -/
theorem place_ends {root : String} {t : CompositeType} (h : Grown s placed [] nodes)
    (hwanted : t.isBelow root = true → wanted t.namespaceName)
    (hkey : t.key ∉ placed.map (·.key)) :
    Ends (place s root nodes t) (Lacks s wanted) fun nodes' =>
      Grown s (placed ++ [t].filter (·.isBelow root)) [] nodes' ∧
        ∀ x, x ∈ names nodes' ↔
          x ∈ names nodes ∨ ∃ u ∈ [t].filter (·.isBelow root), u.namespaceName = x := by
  unfold place
  rw [isWithin_and_isNone]
  split
  · rename_i hbelow
    refine (ensure_ends h (hwanted hbelow)).bind fun nodes' ⟨hgrown, hnames⟩ => ?_
    have hhome : t.namespaceName ∈ names nodes' := (hnames _).mpr (Or.inr rfl)
    rw [isPlaced_eq_false hgrown hkey, List.filter_singleton, hbelow]
    refine ⟨hgrown.addType hhome, fun x => ?_⟩
    rw [names_addType, hnames]
    simp [eq_comm]
  · rename_i hbelow
    rw [List.filter_singleton, Bool.eq_false_iff.mpr hbelow]
    exact ⟨by simpa using h, by simp⟩

theorem placeAll_ends {catalog : Catalog} {root : String} (h : Grown s [] [] nodes)
    (hroot : ∀ x, x ∈ names nodes ↔ x = root)
    (hwanted : ∀ t ∈ catalog.typesBelow root, wanted t.namespaceName) :
    Ends (catalog.types.foldlM (place s root) nodes) (Lacks s wanted) fun nodes' =>
      Grown s (catalog.typesBelow root) [] nodes' ∧
        ∀ x, x ∈ names nodes' ↔ x = root ∨ ∃ t ∈ catalog.typesBelow root, t.namespaceName = x := by
  refine Ends.foldlM (fun done nodes' => Grown s (done.filter (·.isBelow root)) [] nodes' ∧
    ∀ x, x ∈ names nodes' ↔ x = root ∨ ∃ t ∈ done.filter (·.isBelow root), t.namespaceName = x)
    ?_ ⟨h, by simpa using hroot⟩
  rintro done t rest nodes' hsplit ⟨hgrown, hnames⟩
  have hnew : t.key ∉ (done.filter (·.isBelow root)).map (·.key) := by
    have hdistinct := catalog.distinct
    rw [hsplit, List.map_append, List.map_cons, List.nodup_append] at hdistinct
    intro hmem
    obtain ⟨u, hu, hkey⟩ := List.mem_map.mp hmem
    exact hdistinct.2.2 u.key (List.mem_map_of_mem (List.mem_filter.mp hu).1) t.key
      List.mem_cons_self hkey
  have hwants : t.isBelow root = true → wanted t.namespaceName := by
    intro hbelow
    refine hwanted t (List.mem_filter.mpr ⟨?_, hbelow⟩)
    rw [hsplit]
    simp
  refine (place_ends hgrown hwants hnew).imp fun nodes'' ⟨hgrown', hnames'⟩ => ?_
  rw [List.filter_append]
  refine ⟨hgrown', fun x => ?_⟩
  rw [hnames', hnames, or_assoc]
  simp only [List.mem_append, or_and_right, exists_or]

/-! Adding the names above. -/

theorem addAncestors_ends (h : Grown s placed [] nodes)
    (hwanted : ∀ upper, Text.AtOrAbove upper name → wanted upper) :
    Ends (addAncestors s nodes name) (Lacks s wanted) fun nodes' =>
      Grown s placed [] nodes' ∧ (∀ x ∈ names nodes, x ∈ names nodes') ∧
      (∀ x ∈ names nodes', x ∈ names nodes ∨ Text.AtOrAbove x name) ∧
      ∀ x ∈ names nodes', x = name ∨ x ∉ names nodes →
        ∀ p, Text.parentName? x = some p → p ∈ names nodes' := by
  unfold addAncestors
  -- The induction is on the names above: past the nearest, the walk goes on from that one.
  induction hlist : Text.ancestors name generalizing name nodes with
  | nil =>
    refine ⟨h, fun x hx => hx, fun x hx => Or.inl hx, ?_⟩
    rintro x hx (rfl | hnew) p hp
    · rw [Text.ancestors_of_parentName? hp] at hlist
      cases hlist
    · exact absurd hx hnew
  | cons upper rest ih =>
    obtain ⟨hparent, rfl⟩ : Text.parentName? name = some upper ∧ rest = Text.ancestors upper := by
      cases hname : Text.parentName? name with
      | none =>
        rw [Text.ancestors_of_parentName?_none hname] at hlist
        cases hlist
      | some p =>
        rw [Text.ancestors_of_parentName? hname] at hlist
        cases hlist
        exact ⟨rfl, rfl⟩
    have habove := Text.AtOrAbove.of_parentName? hparent
    unfold ensureUntilKnown
    split
    · rename_i hknown
      -- The walk stops at a name that has a node; nothing was added.
      refine ⟨h, fun x hx => hx, fun x hx => Or.inl hx, ?_⟩
      rintro x hx (rfl | hnew) p hp
      · obtain rfl : upper = p := Option.some.inj (hparent.symm.trans hp)
        exact hasNode_iff.mp hknown
      · exact absurd hx hnew
    · refine (ensure_ends h (hwanted upper habove)).bind fun nodes' ⟨hgrown, hnames⟩ => ?_
      have hwants : ∀ x, Text.AtOrAbove x upper → wanted x :=
        fun x hx => hwanted x (hx.trans habove)
      refine (ih hgrown hwants rfl).imp fun nodes'' ⟨hgrown', hkept, hadded, hclosed⟩ => ?_
      have hupper : upper ∈ names nodes'' := hkept upper ((hnames upper).mpr (Or.inr rfl))
      refine ⟨hgrown', fun x hx => hkept x ((hnames x).mpr (Or.inl hx)), ?_, ?_⟩
      · intro x hx
        rcases hadded x hx with hx | hx
        · rcases (hnames x).mp hx with hx | rfl
          · exact Or.inl hx
          · exact Or.inr habove
        · exact Or.inr (hx.trans habove)
      · rintro x hx (rfl | hnew) p hp
        · obtain rfl : upper = p := Option.some.inj (hparent.symm.trans hp)
          exact hupper
        · by_cases hsame : x = upper
          · exact hclosed x hx (Or.inl hsame) p hp
          · refine hclosed x hx (Or.inr fun hmem => ?_) p hp
            exact ((hnames x).mp hmem).elim hnew hsame

/-- What the nodes hold when the names above have been added for some of the names that had a node
at the start. Those whose turn has not come may still lack the name above them. -/
structure Raised (s : Site) (placed : List CompositeType) (start done : List String)
    (nodes : List Namespace) : Prop where
  grown : Grown s placed [] nodes
  kept : ∀ x ∈ start, x ∈ names nodes
  added : ∀ x ∈ names nodes, ∃ y ∈ start, Text.AtOrAbove x y
  closed : ∀ x ∈ names nodes, (x ∈ start → x ∈ done) →
    ∀ p, Text.parentName? x = some p → p ∈ names nodes

theorem Raised.step {start done : List String} (h : Raised s placed start done nodes)
    (hname : name ∈ start) (hwanted : ∀ upper, Text.AtOrAbove upper name → wanted upper) :
    Ends (addAncestors s nodes name) (Lacks s wanted) (Raised s placed start (done ++ [name])) := by
  refine (addAncestors_ends h.grown hwanted).imp fun nodes' ⟨hgrown, hkept, hadded, hclosed⟩ => ?_
  refine ⟨hgrown, fun x hx => hkept x (h.kept x hx), ?_, ?_⟩
  · intro x hx
    rcases hadded x hx with hx | hx
    · exact h.added x hx
    · exact ⟨name, hname, hx⟩
  · intro x hx hdone p hp
    by_cases hfresh : x = name ∨ x ∉ names nodes
    · exact hclosed x hx hfresh p hp
    · obtain ⟨hne, hold⟩ := not_or.mp hfresh
      refine hkept p (h.closed x (not_not.mp hold) (fun hstart => ?_) p hp)
      simpa [hne] using hdone hstart

theorem addAllAncestors_ends (h : Grown s placed [] nodes)
    (hwanted : ∀ x ∈ names nodes, ∀ upper, Text.AtOrAbove upper x → wanted upper) :
    Ends (forEachNode (addAncestors s) nodes) (Lacks s wanted)
      (Raised s placed (names nodes) (names nodes)) := by
  refine Ends.foldlM (Raised s placed (names nodes)) ?_ ?_
  · intro done name rest nodes' hsplit hraised
    have hname : name ∈ names nodes := by
      unfold names
      rw [hsplit]
      simp
    exact hraised.step hname (hwanted name hname)
  · refine ⟨h, fun x hx => hx, fun x hx => ⟨x, hx, Text.AtOrAbove.refl x⟩, ?_⟩
    intro x hx hdone
    exact absurd (hdone hx) List.not_mem_nil

/-! Linking the names. -/

theorem Grown.linkTop (h : Grown s placed linked nodes) (hnone : Text.parentName? name = none) :
    Grown s placed (linked ++ [name]) nodes := by
  have hlinked : ∀ x p, x ∈ linked ++ [name] ∧ Text.parentName? x = some p ↔
      x ∈ linked ∧ Text.parentName? x = some p := by
    intro x p
    simp only [List.mem_append, List.mem_singleton]
    constructor
    · rintro ⟨hx | rfl, hp⟩
      · exact ⟨hx, hp⟩
      · rw [hnone] at hp
        cases hp
    · rintro ⟨hx, hp⟩
      exact ⟨Or.inl hx, hp⟩
  refine ⟨h.distinct, h.dirs, h.files, h.homes, h.types, ?_, ?_, h.sorted⟩
  · intro n hn p
    rw [hlinked]
    exact h.parent n hn p
  · intro n hn child
    rw [hlinked]
    exact h.children n hn child

theorem names_link {p : String} (hp : Text.parentName? name = some p) :
    names (update (update nodes p fun n hn => n.addChild name (hp.trans (hn ▸ rfl))) name
      fun n hn => n.setParent p (hn ▸ hp)) = names nodes := by
  rw [names_update, names_update]
  · exact fun _ _ => rfl
  · exact fun _ _ => rfl

/-- Linking a name with the one above it makes each know the other and touches nothing else. -/
theorem Grown.link (h : Grown s placed linked nodes) {p : String}
    (hp : Text.parentName? name = some p) :
    Grown s placed (linked ++ [name])
      (update (update nodes p fun n hn => n.addChild name (hp.trans (hn ▸ rfl))) name
        fun n hn => n.setParent p (hn ▸ hp)) := by
  refine ⟨?_, ?_, ?_, ?_, ?_, ?_, ?_, ?_⟩
  · rw [names_link hp]
    exact h.distinct
  · exact forall_update (forall_update h.dirs fun _ _ hn => hn) fun _ _ hn => hn
  · exact forall_update (forall_update h.files fun _ _ hn => hn) fun _ _ hn => hn
  · rw [names_link hp]
    exact h.homes
  · exact forall_update (forall_update h.types fun _ _ hn => hn) fun _ _ hn => hn
  · intro m hm q
    rcases mem_update.mp hm with ⟨n, -, rfl, rfl⟩ | ⟨hm, hne⟩
    · simp [Namespace.setParent, hp]
    · have hold : m.parent = some q ↔
          m.fullName ∈ linked ∧ Text.parentName? m.fullName = some q := by
        refine forall_update h.parent ?_ m hm q
        exact fun _ _ hn => hn
      simpa [hne] using hold
  · refine forall_update (fun m hm child => ?_) fun _ _ hn => hn
    rcases mem_update.mp hm with ⟨n, hn, rfl, rfl⟩ | ⟨hm, hne⟩
    · simp only [Namespace.addChild, Ordered.mem_insert, h.children n hn child, List.mem_append,
        List.mem_singleton]
      constructor
      · rintro (rfl | ⟨hchild, hparent⟩)
        · exact ⟨Or.inr rfl, hp⟩
        · exact ⟨Or.inl hchild, hparent⟩
      · rintro ⟨hchild | rfl, hparent⟩
        · exact Or.inr ⟨hchild, hparent⟩
        · exact Or.inl rfl
    · rw [h.children m hm child, List.mem_append, List.mem_singleton]
      constructor
      · rintro ⟨hchild, hparent⟩
        exact ⟨Or.inl hchild, hparent⟩
      · rintro ⟨hchild | rfl, hparent⟩
        · exact ⟨hchild, hparent⟩
        · exact absurd (Option.some.inj (hparent.symm.trans hp)) hne
  · refine forall_update (forall_update h.sorted fun n _ hn => ?_) fun _ _ hn => hn
    exact Ordered.pairwise_insert Ordered.byText_trans Ordered.byText_total name hn

theorem link_ends {bad : GenerationError → Prop} (h : Grown s placed linked nodes)
    (hclosed : ∀ p, Text.parentName? name = some p → p ∈ names nodes) :
    Ends (Tree.link s nodes name) bad fun nodes' =>
      Grown s placed (linked ++ [name]) nodes' ∧ names nodes' = names nodes := by
  unfold Tree.link
  split
  · rename_i hnone
    exact ⟨h.linkTop hnone, rfl⟩
  · rename_i p hp
    have hensure : ensure s nodes p = .ok nodes := if_pos (hasNode_iff.mpr (hclosed p hp))
    rw [hensure]
    exact ⟨h.link hp, names_link hp⟩

theorem linkAll_ends {bad : GenerationError → Prop} (h : Grown s placed [] nodes)
    (hclosed : ∀ x ∈ names nodes, ∀ p, Text.parentName? x = some p → p ∈ names nodes) :
    Ends (forEachNode (Tree.link s) nodes) bad fun nodes' =>
      Grown s placed (names nodes') nodes' ∧ names nodes' = names nodes := by
  have hrun : Ends (forEachNode (Tree.link s) nodes) bad fun nodes' =>
      Grown s placed (names nodes) nodes' ∧ names nodes' = names nodes := by
    refine Ends.foldlM (fun done nodes' => Grown s placed done nodes' ∧ names nodes' = names nodes)
      ?_ ⟨h, rfl⟩
    rintro done name rest nodes' hsplit ⟨hgrown, hnames⟩
    have hname : name ∈ names nodes := by
      unfold names
      rw [hsplit]
      simp
    rw [← hnames] at hname hclosed
    refine (link_ends hgrown (hclosed name hname)).imp fun nodes'' ⟨hgrown', hnames'⟩ => ?_
    exact ⟨hgrown', hnames'.trans hnames⟩
  refine hrun.imp fun nodes' ⟨hgrown, hnames⟩ => ?_
  exact ⟨hnames ▸ hgrown, hnames⟩

/-- The builder ends with all nodes that are wanted, every type placed and every name linked, or
with the error for a wanted name that has no directory. -/
theorem buildNodes_ends (s : Site) (catalog : Catalog) (root : String) :
    Ends (buildNodes s catalog root) (Lacks s (Wanted (catalog.typesBelow root) root)) fun nodes =>
      Grown s (catalog.typesBelow root) (names nodes) nodes ∧
        ∀ x, x ∈ names nodes ↔ Wanted (catalog.typesBelow root) root x := by
  unfold buildNodes
  have hroot : Wanted (catalog.typesBelow root) root root := Or.inl (Text.AtOrAbove.refl root)
  have hhomes : ∀ t ∈ catalog.typesBelow root,
      Wanted (catalog.typesBelow root) root t.namespaceName :=
    fun t ht => Or.inr ⟨t, ht, Text.AtOrAbove.refl _⟩
  refine (ensure_ends Grown.nil hroot).bind fun nodes₁ ⟨hgrown₁, hnames₁⟩ => ?_
  have hfirst : ∀ x, x ∈ names nodes₁ ↔ x = root := by simpa [names] using hnames₁
  refine (placeAll_ends hgrown₁ hfirst hhomes).bind fun nodes₂ ⟨hgrown₂, hnames₂⟩ => ?_
  have hwanted : ∀ upper, (∃ x ∈ names nodes₂, Text.AtOrAbove upper x) ↔
      Wanted (catalog.typesBelow root) root upper := by
    intro upper
    simp only [hnames₂, Wanted]
    constructor
    · rintro ⟨x, rfl | ⟨t, ht, rfl⟩, habove⟩
      · exact Or.inl habove
      · exact Or.inr ⟨t, ht, habove⟩
    · rintro (habove | ⟨t, ht, habove⟩)
      · exact ⟨root, Or.inl rfl, habove⟩
      · exact ⟨_, Or.inr ⟨t, ht, rfl⟩, habove⟩
  refine (addAllAncestors_ends hgrown₂ fun x hx upper habove =>
    (hwanted upper).mp ⟨x, hx, habove⟩).bind fun nodes₃ hraised => ?_
  have hclosed : ∀ x ∈ names nodes₃, ∀ p, Text.parentName? x = some p → p ∈ names nodes₃ :=
    fun x hx => hraised.closed x hx id
  refine (linkAll_ends hraised.grown hclosed).imp fun nodes ⟨hgrown, hnames⟩ => ?_
  refine ⟨hgrown, fun x => ?_⟩
  rw [hnames, ← hwanted]
  constructor
  · exact hraised.added x
  · rintro ⟨y, hy, habove⟩
    exact habove.mem_of_closed hclosed (hraised.kept y hy)

end Tree

end SchemaForge
