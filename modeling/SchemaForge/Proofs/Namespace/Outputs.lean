import SchemaForge.Proofs.Layout
import SchemaForge.Proofs.Namespace.Walk
import SchemaForge.Schema.Document

/-! Where the files of a tree are. A built-in language puts the file of every namespace below the
output directory, one folder for each component of its name that is not empty. The files of types
are in these folders as long as no short name has a slash; one that starts with a slash leads out of
the output directory. -/

namespace SchemaForge

namespace Layout

variable {l : Layout} {k : TypeKey} {name : String}

def folders (l : Layout) (name : String) : List String :=
  l.encodeAll ((Text.components name).filter fun c => !c.isEmpty)

theorem filter_encodeAll_components (hempty : l.encoder.encode "" = "") :
    (l.encodeAll (Text.components name)).filter (· ≠ "") = l.folders name := by
  rw [folders, encodeAll, encodeAll, List.filter_map]
  apply congrArg
  apply List.filter_congr
  intro c _
  by_cases hc : c = ""
  · simp [hc, hempty]
  · have hnil : c.toList ≠ [] := by simpa using hc
    have hencoded : l.encoder.encode c ≠ "" := by
      simpa [Encoder.encode] using Encoder.encodeChars_ne_nil hnil
    simp [hc, hencoded]

theorem components_spacePath (hencoder : l.encoder.PlainAffixes)
    (henabled : l.encoder.enabled = true) (hempty : l.encoder.encode "" = "")
    (hfile : Path.IsName l.namespaceFileName) (name : String) :
    (l.spacePath name).components =
      l.outputDir.components ++ (l.folders name ++ [l.namespaceFileName]).map .normal := by
  have hfolder := components_relativeFolder hencoder henabled (Text.components name)
  rw [filter_encodeAll_components hempty] at hfolder
  have hname : Path.components ⟨l.namespaceFileName⟩ = [l.namespaceFileName].map .normal :=
    Path.components_of_isName hfile
  rw [spacePath, Path.components_join_names hname, Path.components_join_names hfolder,
    List.append_assoc, List.map_append]

theorem components_typePath (hencoder : l.encoder.PlainAffixes)
    (henabled : l.encoder.enabled = true)
    (hfile : Path.Onward (Path.components ⟨l.typeFileName k⟩)) :
    (l.typePath k).components = l.outputDir.components ++
      ((l.folders k.namespaceName).map .normal ++ Path.components ⟨l.typeFileName k⟩) := by
  rw [typePath, Path.components_join (onward_relativeTypePath hencoder henabled hfile),
    components_relativeTypePath hencoder henabled hfile, folders, TypeKey.namespaceComponents]

/-- The path of a type is its folders and one file name exactly if its short name has no slash. -/
theorem components_typePath_iff (hencoder : l.encoder.PlainAffixes)
    (henabled : l.encoder.enabled = true) (hext : '/' ∉ l.extension.toList) :
    (l.typePath k).components = l.outputDir.components ++
        (l.folders k.namespaceName ++ [l.typeFileName k]).map .normal ↔
      '/' ∉ k.shortName.toList := by
  constructor
  · intro hshape hslash
    have hmem : .normal (l.typeFileName k) ∈ (l.typePath k).components := by simp [hshape]
    apply (Path.isName_of_mem_components hmem).noSlash
    rw [toList_typeFileName]
    exact List.mem_append_left _ hslash
  · intro hshort
    have hname := Path.components_of_isName (isName_typeFileName hshort hext)
    rw [components_typePath hencoder henabled (onward_typeFileName hshort), hname, List.map_append]
    rfl

/-- A short name that does not start at the root keeps the path of its type below the output
directory. -/
theorem exists_components_typePath (hencoder : l.encoder.PlainAffixes)
    (henabled : l.encoder.enabled = true) (hext : '/' ∉ l.extension.toList)
    (hshort : k.shortName.toList.head? ≠ some '/') :
    ∃ below, (l.typePath k).components = l.outputDir.components ++ below ∧
      ∀ c ∈ below, ∃ name, c = .normal name := by
  have hnormal := normal_of_mem_typeFileName hshort hext
  have hfile : Path.Onward (Path.components ⟨l.typeFileName k⟩) := by
    intro c hc
    obtain ⟨name, rfl⟩ := hnormal c hc
    simp
  refine ⟨_, components_typePath hencoder henabled hfile, ?_⟩
  rw [List.forall_mem_append]
  refine ⟨?_, hnormal⟩
  intro c hc
  obtain ⟨name, -, rfl⟩ := List.mem_map.mp hc
  exact ⟨name, rfl⟩

end Layout

namespace Tree

variable {hasDir : Path → Bool} {catalog : Catalog} {rootDir outputDir : Path} {layout : Layout}
  {tree : Tree}

theorem Built.mem_entities (h : tree.Built layout) {item : Entity × Path}
    (hitem : item ∈ tree.entities) : ∃ n ∈ tree.nodes, item = (.space n, n.outputPath) ∨
      ∃ ty, item.1 = .type ty ∧ (ty.key, item.2) ∈ n.types := by
  obtain ⟨n, hn, hitem⟩ := List.mem_flatMap.mp hitem
  refine ⟨n, (h.mem_spaces.mp hn).1, ?_⟩
  rcases List.mem_cons.mp hitem with hspace | htype
  · exact Or.inl hspace
  · obtain ⟨⟨key, path⟩, hentry, hget⟩ := List.mem_filterMap.mp htype
    obtain ⟨ty, hty, rfl⟩ := Option.map_eq_some_iff.mp hget
    obtain ⟨-, rfl⟩ := Catalog.get?_eq_some_iff.mp hty
    exact Or.inr ⟨ty, rfl, hentry⟩

/-- In a tree of a built-in language the file of a namespace is below the output directory, in one
folder for each component of the name, and so is that of a type exactly if its short name has no
slash. A slash further on in a short name makes more folders, and one in front leads to the root. -/
theorem outputs_of_build {t : Target} {rules : LanguageRules} {e : Encoder}
    (hrules : t.draft.load = .ok rules) (he : Encoder.ofLanguage rules = .ok e)
    (hlayout : layout = Layout.ofRules outputDir rules e)
    (hbuild : build hasDir catalog rootDir layout = .ok tree) :
    (∀ n ∈ tree.nodes,
      n.outputPath.components = outputDir.components ++
        (layout.folders n.fullName ++ [layout.namespaceFileName]).map .normal ∧
      ∀ key path, (key, path) ∈ n.types →
        (path.components = outputDir.components ++
            (layout.folders n.fullName ++ [layout.typeFileName key]).map .normal ↔
          '/' ∉ key.shortName.toList) ∧
        (key.shortName.toList.head? ≠ some '/' →
          ∃ below, path.components = outputDir.components ++ below ∧
            ∀ c ∈ below, ∃ name, c = .normal name) ∧
        (key.shortName.toList.head? = some '/' → path = ⟨layout.typeFileName key⟩)) ∧
    ∀ item ∈ tree.entities, ∃ n ∈ tree.nodes, item = (.space n, n.outputPath) ∨
      ∃ ty, item.1 = .type ty ∧ (ty.key, item.2) ∈ n.types := by
  obtain ⟨h, rfl, -⟩ := built_of_build hbuild
  subst hlayout
  have hencoder : e.PlainAffixes := Encoder.plainAffixes_of_load hrules he
  have hregular : rules.Regular := Target.regular_of_load hrules
  have hext : '/' ∉ rules.language.extension.toList := hregular.slash_notMem_extension
  have hempty : e.encode "" = "" :=
    Encoder.encode_empty (Encoder.IsFor.isReserved_nil ⟨rules, hrules, he⟩)
  have henabled : e.enabled = true :=
    (Encoder.enabled_of_ofLanguage he).trans hregular.stropping
  have hfile : Path.IsName (Layout.ofRules outputDir rules e).namespaceFileName := hregular.file
  refine ⟨fun n hn => ⟨?_, fun key path hentry => ?_⟩, fun item => h.mem_entities⟩
  · rw [h.files n hn]
    exact Layout.components_spacePath hencoder henabled hempty hfile n.fullName
  · obtain ⟨⟨ty, -, rfl, hname⟩, rfl⟩ := (h.mem_types hn).mp hentry
    rw [← hname]
    exact ⟨Layout.components_typePath_iff hencoder henabled hext,
      Layout.exists_components_typePath hencoder henabled hext, Layout.typePath_of_root⟩

/-- Two types of one namespace, the second with a short name that starts with a slash. -/
def rootedText : String :=
  "\x7b\"types\": [
    \x7b\"full_name\": \"a.T\", \"version\": [1, 0], \"kind\": \"structure\"\x7d,
    \x7b\"full_name\": \"a./T\", \"version\": [1, 0], \"kind\": \"structure\"\x7d]\x7d"

def rooted : Catalog where
  types := ["a.T", "a./T"].map fun name => Sample.composite ⟨name, Sample.version⟩ .struct [] none
  distinct := by decide

theorem readCatalog_rooted : Document.readCatalog rootedText = .ok rooted := by
  have htypes : (Document.readCatalog rootedText).map (·.types) = .ok rooted.types := by
    decide +kernel
  cases hread : Document.readCatalog rootedText with
  | error e =>
    rw [hread] at htypes
    cases htypes
  | ok catalog =>
    rw [hread] at htypes
    obtain ⟨types, distinct⟩ := catalog
    cases Except.ok.inj htypes
    rfl

theorem exists_rootedTree : ∃ rules e, Target.javaScript.draft.load = .ok rules ∧
    Encoder.ofLanguage rules = .ok e ∧ ∃ tree,
      build (fun _ => true) rooted ⟨"src/a"⟩ (Layout.ofRules ⟨"out"⟩ rules e) = .ok tree ∧
      ∃ n ∈ tree.nodes, n.fullName = "a" ∧
        n.types = [(⟨"a.T", Sample.version⟩, ⟨"out/a/T_1_0.js"⟩),
          (⟨"a./T", Sample.version⟩, ⟨"/T_1_0.js"⟩)] := by
  obtain ⟨e, ⟨rules, hrules, he⟩, htest⟩ := Encoder.exists_of_passes
    (show Encoder.passes Target.javaScript (fun e =>
      (build (fun _ => true) rooted ⟨"src/a"⟩ ⟨⟨"out"⟩, ".js", "index", e⟩).toOption.any fun tree =>
        tree.nodes.any fun n => n.fullName = "a" ∧
          n.types = [(⟨"a.T", Sample.version⟩, ⟨"out/a/T_1_0.js"⟩),
            (⟨"a./T", Sample.version⟩, ⟨"/T_1_0.js"⟩)]) = true by decide +kernel)
  have hfiles : (Rules.languageRules? Target.javaScript.table).all (fun rules =>
      rules.language.extension = ".js" ∧ rules.language.namespaceStem = "index") = true := by
    decide +kernel
  obtain ⟨hext, hstem⟩ := of_decide_eq_true (Target.of_load hrules hfiles)
  have hlayout : Layout.ofRules ⟨"out"⟩ rules e = ⟨⟨"out"⟩, ".js", "index", e⟩ := by
    rw [Layout.ofRules, hext, hstem]
  obtain ⟨tree, hbuild, htree⟩ := exists_of_any htest
  obtain ⟨n, hn, hfields⟩ := List.any_eq_true.mp htree
  exact ⟨rules, e, hrules, he, tree, hlayout ▸ hbuild, n, hn, of_decide_eq_true hfields⟩

theorem outputs_of_build_rooted : ∃ rules e, Target.javaScript.draft.load = .ok rules ∧
    Encoder.ofLanguage rules = .ok e ∧ ∃ tree,
      build (fun _ => true) rooted ⟨"src/a"⟩ (Layout.ofRules ⟨"out"⟩ rules e) = .ok tree ∧
      ∃ n ∈ tree.nodes, (⟨"a.T", Sample.version⟩, ⟨"out/a/T_1_0.js"⟩) ∈ n.types ∧
        (⟨"out/a/T_1_0.js"⟩ : Path).components = (⟨"out"⟩ : Path).components ++
          ((Layout.ofRules ⟨"out"⟩ rules e).folders "a" ++
            [(Layout.ofRules ⟨"out"⟩ rules e).typeFileName ⟨"a.T", Sample.version⟩]).map
              .normal := by
  obtain ⟨rules, e, hrules, he, tree, hbuild, n, hn, hname, htypes⟩ := exists_rootedTree
  have hentry : (⟨"a.T", Sample.version⟩, ⟨"out/a/T_1_0.js"⟩) ∈ n.types := by
    rw [htypes]
    exact List.mem_cons_self
  have hshape := (((outputs_of_build hrules he rfl hbuild).1 n hn).2 _ _ hentry).1.mpr (by decide)
  exact ⟨rules, e, hrules, he, tree, hbuild, n, hn, hentry, hname ▸ hshape⟩

/-- A type that a document describes, with a file that is not below the output directory. -/
theorem output_outside : ∃ catalog rules e, Document.readCatalog rootedText = .ok catalog ∧
    Target.javaScript.draft.load = .ok rules ∧ Encoder.ofLanguage rules = .ok e ∧ ∃ tree,
      build (fun _ => true) catalog ⟨"src/a"⟩ (Layout.ofRules ⟨"out"⟩ rules e) = .ok tree ∧
      ∃ n ∈ tree.nodes, ∃ key path, (key, path) ∈ n.types ∧ path.isAbsolute = true ∧
        ¬ (⟨"out"⟩ : Path).components <+: path.components := by
  obtain ⟨rules, e, hrules, he, tree, hbuild, n, hn, -, htypes⟩ := exists_rootedTree
  refine ⟨rooted, rules, e, readCatalog_rooted, hrules, he, tree, hbuild, n, hn,
    ⟨"a./T", Sample.version⟩, ⟨"/T_1_0.js"⟩, ?_, by decide, by decide⟩
  rw [htypes]
  exact List.mem_cons_of_mem _ List.mem_cons_self

end Tree

end SchemaForge
