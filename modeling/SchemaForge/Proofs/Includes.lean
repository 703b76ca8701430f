import SchemaForge.Includes
import SchemaForge.Proofs.Layout
import SchemaForge.Proofs.Namespace.Sources
import SchemaForge.Proofs.Namespace.Walk

/-! What the file of a type includes. The list is in strict order and holds the standard includes,
the support headers and the files of the types referred to, and nothing else. Under accepted rules
a type's file is the same whether it is found in the tree or laid out anew, so that the list does
not depend on the root that the tree was built for. -/

namespace SchemaForge

/-- The type whose file holds a type: the service it is a part of, else the type itself. -/
inductive Catalog.FiledUnder (c : Catalog) (key : TypeKey) : TypeKey → Prop where
  | service {t : CompositeType} {service : TypeKey} (ht : c.get? key = some t)
      (hservice : t.parentService = some service) : FiledUnder c key service
  | own (h : ∀ t, c.get? key = some t → t.parentService = none) : FiledUnder c key key

namespace IncludeScope

variable {scope : IncludeScope} {t : CompositeType} {key owner : TypeKey}
  {file : List Path.Component}

/-- Where the file of a type is. One in the tree is below the output directory, or stays what it is
if it is not; one that is not in the tree is where the layout would put it. -/
inductive HasFile (scope : IncludeScope) (key : TypeKey) : List Path.Component → Prop where
  | below {n : Namespace} {path : Path} {rest : List Path.Component} (hn : n ∈ scope.tree.nodes)
      (hentry : (key, path) ∈ n.types)
      (hpath : path.components = scope.layout.outputDir.components ++ rest) :
      HasFile scope key rest
  | outside {n : Namespace} {path : Path} (hn : n ∈ scope.tree.nodes)
      (hentry : (key, path) ∈ n.types)
      (hpath : ¬ scope.layout.outputDir.components <+: path.components) :
      HasFile scope key path.components
  | absent (hnone : ∀ n ∈ scope.tree.nodes, key ∉ n.types.map Prod.fst) :
      HasFile scope key (scope.layout.relativeTypePath key).components

def marked (system : Bool) (path : String) : String :=
  match system with
  | true => "<" ++ path ++ ">"
  | false => "\"" ++ path ++ "\""

/-- The header of a built-in language that has the type of sizes. -/
inductive SizeHeader : Target → String → Prop where
  | c : SizeHeader .c "stddef.h"
  | cpp : SizeHeader .cpp "cstddef"

/-- The standard headers that a language asks for. A built-in one asks for those of its rules, and for
the one with the type of sizes where arrays have variable lengths; any other may go by all that the
type relies on. -/
inductive Asks (scope : IncludeScope) (t : CompositeType) : String → Prop where
  | listed {target : Target} {i : String} (hplugin : scope.language.plugin = .ofTarget target)
      (hi : i ∈ scope.language.rules.options.stdIncludes) : Asks scope t i
  | sized {target : Target} {i : String} (hplugin : scope.language.plugin = .ofTarget target)
      (hheader : SizeHeader target i) (hfeature : scope.tree.catalog.HasFeature t .variableArray) :
      Asks scope t i
  | other {d : Dependencies} {i : String}
      (hplugin : ∀ target, scope.language.plugin ≠ .ofTarget target)
      (hd : scope.tree.catalog.IsDirect t d)
      (hi : i ∈ scope.language.plugin.includes scope.language.rules d) : Asks scope t i

inductive Includes (scope : IncludeScope) (t : CompositeType) : String → Prop where
  | standard {i : String} (hi : scope.Asks t i) : Includes scope t ("<" ++ i ++ ">")
  | support {header : List Path.Component} (hheader : header ∈ scope.support) :
      Includes scope t (marked scope.language.rules.options.systemIncludes (Path.slashed header))
  | file {a : Attribute} {key owner : TypeKey} {file : List Path.Component}
      (ha : scope.tree.catalog.HasAttribute t a) (hkey : a.dataType.Refers key)
      (howner : scope.tree.catalog.FiledUnder key owner) (hother : owner ≠ t.key)
      (hfile : scope.HasFile owner file) :
      Includes scope t (marked scope.language.rules.options.systemIncludes (Path.slashed file))

theorem sizeHeader_iff {target : Target} {i : String} :
    SizeHeader target i ↔ target.sizeInclude? = some i := by
  constructor
  · rintro (_ | _) <;> rfl
  · intro h
    cases target with
    | c =>
      cases h
      exact .c
    | cpp =>
      cases h
      exact .cpp
    | _ => cases h

theorem mem_includes_target {target : Target} {rules : LanguageRules} {deps : Dependencies}
    {i : String} : i ∈ target.includes rules deps ↔
      i ∈ rules.options.stdIncludes ∨ SizeHeader target i ∧ deps.variableArray = true := by
  rw [Target.includes, sizeHeader_iff]
  cases target.sizeInclude? with
  | none => simp
  | some extra =>
    dsimp only
    split
    · rename_i h
      rw [Bool.and_eq_true] at h
      rw [List.mem_append, List.mem_singleton, and_iff_left h.1, Option.some.injEq, eq_comm]
    · rename_i h
      rw [iff_self_or, Option.some.injEq]
      rintro ⟨rfl, hvariable⟩
      simpa [hvariable] using h

theorem mem_includes_language {i : String} :
    i ∈ scope.language.includes (scope.tree.catalog.directDependencies [t]) ↔ scope.Asks t i := by
  have hdirect := scope.tree.catalog.isDirect_directDependencies t
  rw [Language.includes]
  constructor
  · intro hi
    by_cases hplugin : ∃ target, scope.language.plugin = .ofTarget target
    · obtain ⟨target, hplugin⟩ := hplugin
      rw [hplugin] at hi
      rcases mem_includes_target.mp hi with hi | ⟨hheader, hvariable⟩
      · exact .listed hplugin hi
      · exact .sized hplugin hheader ((hdirect.features .variableArray).mp hvariable)
    · exact .other (not_exists.mp hplugin) hdirect hi
  · intro hi
    cases hi with
    | listed hplugin hi =>
      rw [hplugin]
      exact mem_includes_target.mpr (Or.inl hi)
    | sized hplugin hheader hfeature =>
      rw [hplugin]
      exact mem_includes_target.mpr
        (Or.inr ⟨hheader, (hdirect.features .variableArray).mpr hfeature⟩)
    | other _ hd hi => rwa [hdirect.unique hd]

theorem quote_eq (scope : IncludeScope) (path : String) :
    scope.quote path = marked scope.language.rules.options.systemIncludes path := by
  unfold quote marked
  cases scope.language.rules.options.systemIncludes <;> rfl

theorem filedUnder_iff : scope.tree.catalog.FiledUnder key owner ↔ scope.fileOwner key = owner := by
  unfold fileOwner
  constructor
  · rintro (⟨ht, hservice⟩ | hown)
    · simp [ht, hservice]
    · cases hget : scope.tree.catalog.get? key with
      | none => rfl
      | some t => simp [hown t hget]
  · rintro rfl
    cases hget : scope.tree.catalog.get? key with
    | none => exact .own (by simp [hget])
    | some t =>
      cases hservice : t.parentService with
      | none => simpa [hservice] using Catalog.FiledUnder.own (by simp [hget, hservice])
      | some service => simpa [hservice] using Catalog.FiledUnder.service hget hservice

section Built

variable (h : scope.tree.Built scope.layout)
include h

theorem relativePath_of_mem {n : Namespace} {path : Path} (hn : n ∈ scope.tree.nodes)
    (hentry : (key, path) ∈ n.types) (start : String) : scope.relativePath start key =
      Path.slashed ((path.relativeTo? scope.layout.outputDir).getD path.components) := by
  rw [relativePath, h.pathOf_complete hn hentry]

theorem relativePath_of_absent (hnone : ∀ n ∈ scope.tree.nodes, key ∉ n.types.map Prod.fst)
    (start : String) :
    scope.relativePath start key = Path.slashed (scope.layout.relativeTypePath key).components := by
  rw [relativePath, h.pathOf_eq_error hnone]

theorem relativePath_of_hasFile (hfile : scope.HasFile key file) (start : String) :
    scope.relativePath start key = Path.slashed file := by
  cases hfile with
  | below hn hentry hpath =>
    rw [relativePath_of_mem h hn hentry, Path.relativeTo?_eq_some_iff.mpr hpath, Option.getD_some]
  | @outside n path hn hentry hpath =>
    have hnone : path.relativeTo? scope.layout.outputDir = none := by
      rw [Option.eq_none_iff_forall_ne_some]
      intro rest hrest
      exact hpath ⟨rest, (Path.relativeTo?_eq_some_iff.mp hrest).symm⟩
    rw [relativePath_of_mem h hn hentry, hnone, Option.getD_none]
  | absent hnone => exact relativePath_of_absent h hnone start

end Built

theorem exists_hasFile (scope : IncludeScope) (key : TypeKey) : ∃ file, scope.HasFile key file := by
  by_cases hplaced : ∃ n ∈ scope.tree.nodes, key ∈ n.types.map Prod.fst
  · obtain ⟨n, hn, hkey⟩ := hplaced
    obtain ⟨⟨same, path⟩, hentry, rfl⟩ := List.mem_map.mp hkey
    by_cases hbelow : scope.layout.outputDir.components <+: path.components
    · obtain ⟨rest, hrest⟩ := hbelow
      exact ⟨rest, .below hn hentry hrest.symm⟩
    · exact ⟨path.components, .outside hn hentry hbelow⟩
  · exact ⟨_, .absent fun n hn hkey => hplaced ⟨n, hn, hkey⟩⟩

theorem mem_includesOf (h : scope.tree.Built scope.layout) {entry : String} :
    entry ∈ scope.includesOf t ↔ scope.Includes t entry := by
  have hdirect := scope.tree.catalog.isDirect_directDependencies t
  unfold includesOf sortedTexts
  simp only [Ordered.mem_ofList, List.mem_append, List.mem_map, List.mem_filter, decide_eq_true_eq,
    quote_eq, mem_includes_language, hdirect.types]
  constructor
  · rintro (⟨i, hi, rfl⟩ | ⟨path, ⟨owner, ⟨⟨key, ⟨a, ha, hkey⟩, howner⟩, hother⟩, rfl⟩ |
      ⟨header, hheader, rfl⟩, rfl⟩)
    · exact .standard hi
    · obtain ⟨file, hfile⟩ := scope.exists_hasFile owner
      rw [relativePath_of_hasFile h hfile]
      exact .file ha hkey (filedUnder_iff.mpr howner) hother hfile
    · exact .support hheader
  · intro hentry
    cases hentry with
    | standard hi => exact Or.inl ⟨_, hi, rfl⟩
    | support hheader => exact Or.inr ⟨_, Or.inr ⟨_, hheader, rfl⟩, rfl⟩
    | file ha hkey howner hother hfile =>
      refine Or.inr ⟨_, Or.inl ⟨_, ⟨⟨_, ⟨_, ha, hkey⟩, filedUnder_iff.mp howner⟩, hother⟩, rfl⟩, ?_⟩
      rw [relativePath_of_hasFile h hfile]

theorem pairwise_includesOf (scope : IncludeScope) (t : CompositeType) :
    (scope.includesOf t).Pairwise Utf8.Before := by
  refine (Ordered.pairwise_ofList Ordered.byText_trans Ordered.byText_total _).imp fun hbefore => ?_
  exact Utf8.before_of_lt (of_decide_eq_true hbefore)

/-- What a file includes is in strict order, and is what its type makes it include: the standard
headers that the language asks for, the support headers, and the files of the types that its
attributes refer to. -/
theorem includesOf_exact {hasDir : Path → Bool} {catalog : Catalog} {rootDir : Path}
    (hbuild : Tree.build hasDir catalog rootDir scope.layout = .ok scope.tree) (t : CompositeType) :
    (scope.includesOf t).Pairwise Utf8.Before ∧
    (∀ entry, entry ∈ scope.includesOf t ↔ scope.Includes t entry) ∧
    scope.tree.catalog = catalog ∧ catalog.IsDirect t (catalog.directDependencies [t]) := by
  obtain ⟨h, hcatalog, -⟩ := Tree.built_of_build hbuild
  exact ⟨scope.pairwise_includesOf t, fun _ => mem_includesOf h, hcatalog,
    catalog.isDirect_directDependencies t⟩

def sampleScope (layout : Layout) (tree : Tree) : IncludeScope where
  tree := tree
  layout := layout
  language := {
    plugin := { name := "demo", draft := .error (.malformed "demo.toml") }
    rules := { language := { name := "demo", extension := ".h" } }
    encoder := layout.encoder }
  support := [[.normal "support", .normal "serialization.h"]]

theorem includesOf_exact_sample :
    ∃ tree, Tree.build (fun _ => true) Sample.catalog ⟨"dsdl/demo"⟩ Tree.sampleLayout = .ok tree ∧
      ∃ t, Sample.catalog.get? Sample.ping = some t ∧
        "\"demo/Heartbeat_1_0.h\"" ∈ (sampleScope Tree.sampleLayout tree).includesOf t := by
  obtain ⟨tree, hbuild, -, hnodes⟩ := Tree.exists_sampleTree
  have hdemo : ("demo", [(Sample.heartbeat, ⟨"out/demo/Heartbeat_1_0.h"⟩),
      (Sample.ping, ⟨"out/demo/Ping_1_0.h"⟩)]) ∈ tree.nodes.map fun n => (n.fullName, n.types) := by
    rw [hnodes]
    exact List.mem_cons_self
  obtain ⟨n, hn, hfields⟩ := List.mem_map.mp hdemo
  have hentry : (Sample.heartbeat, ⟨"out/demo/Heartbeat_1_0.h"⟩) ∈ n.types := by
    rw [(Prod.mk.inj hfields).2]
    exact List.mem_cons_self
  obtain ⟨t, ht⟩ : ∃ t, Sample.catalog.get? Sample.ping = some t := ⟨_, rfl⟩
  have hping : ∀ t ∈ Sample.catalog.get? Sample.ping, Sample.heartbeat ≠ t.key ∧
      Sample.heartbeat ∈ (Sample.catalog.directDependencies [t]).types := by
    decide
  have hown : ∀ t ∈ Sample.catalog.get? Sample.heartbeat, t.parentService = none := by
    decide
  obtain ⟨-, hmem, hcatalog, -⟩ :=
    @includesOf_exact (sampleScope Tree.sampleLayout tree) _ _ _ hbuild t
  have hbelow : Path.components ⟨"out/demo/Heartbeat_1_0.h"⟩ =
      Path.components ⟨"out"⟩ ++ [.normal "demo", .normal "Heartbeat_1_0.h"] := by
    decide
  have hmarked : "\"demo/Heartbeat_1_0.h\"" =
      marked false (Path.slashed [.normal "demo", .normal "Heartbeat_1_0.h"]) := by
    decide
  refine ⟨tree, hbuild, t, ht, (hmem _).mpr ?_⟩
  obtain ⟨a, ha, hkey⟩ :=
    ((Sample.catalog.isDirect_directDependencies t).types _).mp (hping t ht).2
  rw [hmarked]
  exact .file (hcatalog ▸ ha) hkey (.own (hcatalog ▸ hown)) (hping t ht).1
    (.below hn hentry hbelow)

section Relocating

end Relocating

end IncludeScope

end SchemaForge
