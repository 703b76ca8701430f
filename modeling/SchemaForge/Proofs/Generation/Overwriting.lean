import SchemaForge.Proofs.Generation.DryRun
import SchemaForge.Proofs.Namespace.TypePaths
import SchemaForge.Proofs.Output.Processors

/-! What a run overwrites. The step for one type or namespace changes no file but the one that its
path leads to, so a file of a type is replaced by that of another type only where both paths lead to
one place: where they are the same, or links or the slashes of an extension bring them together. -/

namespace SchemaForge

open FileSystem (ChangesAt KeepsWays)

namespace Generate

theorem changesAt_fill {s : Session} {loc : Location} {path : Path}
    (h : s.files.resolve path = .ok loc) (template : TemplateRef) (data : Json) :
    ChangesAt path s.files (fill s loc template data path).2.files :=
  FileSystem.changesAt_append h _

theorem changesAt_write {s : Session} (h : ∀ f ∈ s.generator.processors, f.Confined)
    (template : TemplateRef) (data : Json) (path : Path) :
    ChangesAt path s.files (exec (write template data path) s).2.files := by
  obtain ⟨hcreate, hloc⟩ :=
    FileSystem.changesAt_createOutput s.files path s.generator.options.overwrite
  rw [exec_write]
  generalize s.files.createOutput path s.generator.options.overwrite = created at hcreate hloc ⊢
  obtain ⟨_ | loc, files⟩ := created
  · exact hcreate
  · dsimp only at hcreate hloc ⊢
    have hfill := changesAt_fill (s := { s with files }) (hloc loc rfl) template data
    have hsetup := sameSetup_fill { s with files } loc template data path
    generalize fill { s with files } loc template data path = filled at hfill hsetup ⊢
    obtain ⟨_ | _, t⟩ := filled
    · exact hcreate.trans hfill
    · have hdone := FileProcessor.changesAt_runAll (hsetup.forall_processors h) t.files path
      exact (hcreate.trans hfill).trans hdone

/-- The step for a type or namespace changes at most what its path leads to. -/
theorem changesAt_entity {s : Session} (h : ∀ f ∈ s.generator.processors, f.Confined) (tree : Tree)
    (e : Entity) (path : Path) (includes : List String) :
    ChangesAt path s.files (exec (entity tree e path includes) s).2.files := by
  have hsetup := sameSetup_resolve e { s with generator := s.generator.nextFile }
  have hfiles := files_resolve e { s with generator := s.generator.nextFile }
  rw [exec_entity]
  generalize exec (resolve e) { s with generator := s.generator.nextFile } = resolved
    at hsetup hfiles ⊢
  obtain ⟨_ | template, t⟩ := resolved
  · dsimp only at hfiles ⊢
    rw [hfiles]
    exact ChangesAt.refl _ _
  · dsimp only at hfiles ⊢
    rw [← hfiles]
    split
    · exact ChangesAt.refl _ _
    · exact changesAt_write (hsetup.forall_processors h) _ _ _

/-- The set-up is the same, and where processors are confined, so is every way that led on. -/
def SameWays (s t : Session) : Prop :=
  SameSetup s t ∧ ((∀ f ∈ s.generator.processors, f.Confined) → KeepsWays s.files t.files)

theorem SameWays.refl (s : Session) : SameWays s s :=
  ⟨SameSetup.refl s, fun _ => KeepsWays.refl s.files⟩

theorem SameWays.trans (s t u : Session) (hst : SameWays s t) (htu : SameWays t u) :
    SameWays s u :=
  ⟨hst.1.trans _ _ _ htu.1, fun h => (hst.2 h).trans (htu.2 (hst.1.forall_processors h))⟩

theorem sameWays_entity (tree : Tree) (e : Entity) (path : Path) (includes : List String) :
    Moves SameWays (entity tree e path includes) :=
  fun s => ⟨sameSetup_entity tree e path includes s,
    fun h => (changesAt_entity h tree e path includes).toKeepsWays⟩

theorem sameWays_supportFile (template : TemplateRef) : Moves SameWays (supportFile template) := by
  intro s
  refine ⟨sameSetup_supportFile template s, fun h => ?_⟩
  rw [exec_supportFile]
  split
  · exact KeepsWays.refl s.files
  · exact (changesAt_write (s := { s with generator := s.generator.nextFile }) h _ _ _).toKeepsWays

theorem sameWays_support : Moves SameWays support := by
  intro s
  rw [exec_support]
  split
  · exact SameWays.refl s
  · exact Moves.mapM SameWays.refl SameWays.trans (fun t _ => sameWays_supportFile t) s

end Generate

open Generate

theorem Session.changesAt_after {s : Session} {tree : Tree} {n : Nat} {item : Entity × Path}
    (h : ∀ f ∈ s.generator.processors, f.Confined)
    (hitem : (s.generator.entities tree)[n]? = some item) :
    ChangesAt item.2 (s.after tree n).files (s.after tree (n + 1)).files := by
  rcases Session.after_succ hitem with hsame | ⟨g, paths, hstep⟩
  · rw [hsame]
    exact ChangesAt.refl _ _
  · rw [hstep]
    exact changesAt_entity ((s.sameSetup_after tree n).forall_processors h) _ _ _ _

theorem Session.sameWays_after (s : Session) (tree : Tree) (n : Nat) :
    SameWays s (s.after tree n) := by
  have hsupport := sameWays_support { s with generator := s.generator.start }
  unfold after
  generalize exec support { s with generator := s.generator.start } = r at hsupport ⊢
  obtain ⟨_ | paths, t⟩ := r
  · exact hsupport
  · apply SameWays.trans _ t _ hsupport
    exact Moves.mapM SameWays.refl SameWays.trans (fun item _ => sameWays_entity _ _ _ _) t

/-- Whether the step for one type replaces the file that is there for another, at another path. -/
def Session.replaces (s : Session) (tree : Tree) (i j : Nat) : Bool :=
  match (s.generator.entities tree)[i]?, (s.generator.entities tree)[j]? with
  | some (.type _, p), some (.type _, p') =>
    p != p' && match (s.after tree i).files.stat p' with
      | .ok found => (s.after tree (i + 1)).files.stat p' != .ok found
      | .error _ => false
  | _, _ => false

namespace Tree

variable {t : Target} {rules : LanguageRules} {e : Encoder} {layout : Layout} {catalog : Catalog}
  {hasDir : Path → Bool} {rootDir : Path} {tree : Tree} {n n' : Namespace} {k k' : TypeKey}
  {p p' : Path}

/-- Two types of a tree have the same path exactly if they are in different namespaces whose encoded
components are the same and have the same short name and version. Else no run in which processors
keep to the file they are given replaces the file of one by that of the other, unless there are links
or slashes in the extension and both paths lead to one place. -/
theorem typeFiles_distinct (hrules : t.draft.load = .ok rules)
    (he : Encoder.ofLanguage rules = .ok e) (hencoder : layout.encoder = e)
    (hwords : ∀ ty ∈ catalog.types, ∀ c ∈ Text.components ty.fullName,
      c ≠ "" ∧ ∀ ch ∈ c.toList, Encoder.isPlain ch = true)
    (hbuild : build hasDir catalog rootDir layout = .ok tree)
    (hn : n ∈ tree.nodes) (hk : (k, p) ∈ n.types)
    (hn' : n' ∈ tree.nodes) (hk' : (k', p') ∈ n'.types) (hne : k ≠ k') :
    (p = p' ↔ n.fullName ≠ n'.fullName ∧
      layout.encodeAll k.namespaceComponents = layout.encodeAll k'.namespaceComponents ∧
      k.shortName = k'.shortName ∧ k.version = k'.version) ∧
    (p ≠ p' → ∀ s : Session, (∀ f ∈ s.generator.processors, f.Confined) →
      ∀ i ty, (s.generator.entities tree)[i]? = some (.type ty, p) →
        ∀ found, (s.after tree i).files.stat p' = .ok found →
          (s.after tree (i + 1)).files.stat p' = .ok found ∨
          (s.after tree (i + 1)).files.SamePlace p p' ∧
            (s.files.links ≠ [] ∨ '/' ∈ layout.extension.toList)) := by
  obtain ⟨hbuilt, rfl, -⟩ := built_of_build hbuild
  obtain ⟨⟨ty, hty, rfl, hname⟩, rfl⟩ := (hbuilt.mem_types hn).mp hk
  obtain ⟨⟨ty', hty', rfl, hname'⟩, rfl⟩ := (hbuilt.mem_types hn').mp hk'
  have hplain : layout.encoder.PlainAffixes := by
    rw [hencoder]
    exact Encoder.plainAffixes_of_load hrules he
  have henabled : layout.encoder.enabled = true := by
    rw [hencoder, Encoder.enabled_of_ofLanguage he]
    exact (Target.regular_of_load hrules).stropping
  have hword (ty : CompositeType) (hty : ty ∈ tree.catalog.typesBelow tree.rootName) :=
    hwords ty (List.mem_of_mem_filter hty)
  have hnonempty (ty : CompositeType) (hty : ty ∈ tree.catalog.typesBelow tree.rootName) :
      ∀ c ∈ Text.components ty.key.fullName, c ≠ "" :=
    fun c hc => (hword ty hty c hc).1
  have hshort (ty : CompositeType) (hty : ty ∈ tree.catalog.typesBelow tree.rootName) :
      '/' ∉ ty.key.shortName.toList :=
    TypeKey.slash_notMem_shortName (hword ty hty)
  have hpath : layout.typePath ty.key = layout.typePath ty'.key ↔ _ :=
    Layout.typePath_inj hplain henabled (hshort ty hty) (hshort ty' hty')
  constructor
  -- Types of one namespace that share short name and version have the same key.
  · rw [hpath, Layout.typeParts_inj, iff_and_self]
    intro ⟨_, hshort, hversion⟩ hspace
    exact hne (TypeKey.eq_of_namespaceName (hnonempty ty hty) (hnonempty ty' hty')
      (hname.trans (hspace.trans hname'.symm)) hshort hversion)
  · intro hpaths s hprocessors i other hitem found hfound
    have hchanges := Session.changesAt_after hprocessors hitem
    by_cases hsame : (s.after tree (i + 1)).files.resolve (layout.typePath ty.key) = .ok found.1
    · have hsame' := hchanges.resolve (FileSystem.stat_eq_ok.mp hfound).1
      refine Or.inr ⟨⟨found.1, hsame, hsame'⟩, ?_⟩
      rw [or_iff_not_imp_left, not_not]
      intro hlinks
      by_contra hslash
      rw [← ((s.sameWays_after tree (i + 1)).2 hprocessors).links] at hlinks
      have hplace := FileSystem.SamePlace.locate ⟨found.1, hsame, hsame'⟩ hlinks
      rw [Layout.locate_typePath_inj hplain henabled (hshort ty hty) (hshort ty' hty') hslash]
        at hplace
      exact hpaths (hpath.mpr hplace)
    · exact Or.inl (hchanges.stat hsame hfound)

def crowded : Catalog where
  types := ["a.T", "a.U", "a._if.T", "a.if.T"].map fun name =>
    Sample.composite ⟨name, Sample.version⟩ .struct [] none
  distinct := by decide

def crowdedLayout (e : Encoder) (extension : String) : Layout :=
  { sampleLayout with extension, encoder := e }

def crowdedSession (links : List (Location × FileLink)) : Session where
  files := {
    entries := [[], ["out"], ["out", "a"], ["out", "a", "T_1_0.x"], ["out", "a", "U_1_0.x"]].map
      fun names => ("work" :: names, .directory 0o755)
    links }
  generator := { Session.sample.generator with
    context := { Session.sample.generator.context with omitSupport := true }
    resolver := { sources := [.inline "demo" [("CompositeType", "")]] }
    renderer := .custom [] fun seen _ _ => (.ok (), [[UInt8.ofNat seen.length]])
    processors := [.setMode 0o644] }

theorem words_crowded : ∀ ty ∈ crowded.types, ∀ c ∈ Text.components ty.fullName,
    c ≠ "" ∧ ∀ ch ∈ c.toList, Encoder.isPlain ch = true := by
  have hall : (crowded.types.all fun ty => (Text.components ty.fullName).all fun c =>
      c != "" && c.toList.all Encoder.isPlain) = true := by
    decide +kernel
  simpa using hall

/-- Where the types are placed, and that the second step of a run is that of the second type and
finds the file of the first. -/
@[mk_iff]
structure IsCrowded (t : Tree) : Prop where
  upper : ∃ n ∈ t.nodes, (⟨"a.T", Sample.version⟩, ⟨"out/a/T_1_0.js"⟩) ∈ n.types ∧
    (⟨"a.U", Sample.version⟩, ⟨"out/a/U_1_0.js"⟩) ∈ n.types
  stropped : ∃ n ∈ t.nodes, (⟨"a._if.T", Sample.version⟩, ⟨"out/a/_if/T_1_0.js"⟩) ∈ n.types
  reserved : ∃ n ∈ t.nodes, (⟨"a.if.T", Sample.version⟩, ⟨"out/a/_if/T_1_0.js"⟩) ∈ n.types
  step : ((crowdedSession []).generator.entities t)[1]? =
    some (.type (Sample.composite ⟨"a.U", Sample.version⟩ .struct [] none), ⟨"out/a/U_1_0.js"⟩)
  found : ((crowdedSession []).after t 1).files.stat ⟨"out/a/T_1_0.js"⟩ =
    .ok (["work", "out", "a", "T_1_0.js"], .file 0o644 [0])

instance (t : Tree) : Decidable t.IsCrowded :=
  decidable_of_iff (_ ∧ _ ∧ _ ∧ _ ∧ _) t.isCrowded_iff.symm

def crowdedLink : Location × FileLink :=
  (["work", "out", "a", "U_1_0.js"], .symbolic ⟨"T_1_0.js"⟩)

def meet (e : Encoder) : Bool :=
  ((build (fun _ => true) crowded ⟨"src/a"⟩ (crowdedLayout e ".js")).toOption.any fun t =>
    t.IsCrowded ∧ (crowdedSession [crowdedLink]).replaces t 1 0) &&
  (build (fun _ => true) crowded ⟨"src/a"⟩ (crowdedLayout e ".x/../y")).toOption.any
    ((crowdedSession []).replaces · 1 0)

theorem exists_crowdedTree :
    ∃ e : Encoder, e.IsFor Target.javaScript ∧ ∃ t slashed : Tree,
      build (fun _ => true) crowded ⟨"src/a"⟩ (crowdedLayout e ".js") = .ok t ∧
      build (fun _ => true) crowded ⟨"src/a"⟩ (crowdedLayout e ".x/../y") = .ok slashed ∧
      t.IsCrowded ∧ (crowdedSession [crowdedLink]).replaces t 1 0 = true ∧
      (crowdedSession []).replaces slashed 1 0 = true := by
  obtain ⟨e, he, htest⟩ := Encoder.exists_of_passes
    (show Encoder.passes Target.javaScript meet = true by decide +kernel)
  obtain ⟨htree, hslashed⟩ := Bool.and_eq_true_iff.mp htest
  obtain ⟨t, hbuild, hfacts⟩ := exists_of_any htree
  obtain ⟨slashed, hbuild', hup⟩ := exists_of_any hslashed
  obtain ⟨hcrowded, hlinked⟩ := of_decide_eq_true hfacts
  exact ⟨e, he, t, slashed, hbuild, hbuild', hcrowded, hlinked, hup⟩

theorem typeFiles_distinct_crowded :
    ∃ e : Encoder, e.IsFor Target.javaScript ∧ ∃ t : Tree,
      build (fun _ => true) crowded ⟨"src/a"⟩ (crowdedLayout e ".js") = .ok t ∧
      ∃ found, ((crowdedSession []).after t 1).files.stat ⟨"out/a/T_1_0.js"⟩ = .ok found ∧
        ((crowdedSession []).after t 2).files.stat ⟨"out/a/T_1_0.js"⟩ = .ok found := by
  obtain ⟨e, ⟨rules, hrules, he⟩, t, -, hbuild, -, hcrowded, -⟩ := exists_crowdedTree
  obtain ⟨n, hn, hfirst, hsecond⟩ := hcrowded.upper
  have hprocessors : ∀ f ∈ (crowdedSession []).generator.processors, f.Confined := by
    intro f hf
    rw [List.mem_singleton.mp hf]
    exact FileProcessor.confined_setMode _
  have hslash : '/' ∉ (crowdedLayout e ".js").extension.toList := by
    change '/' ∉ ".js".toList
    decide
  have hkeeps := (typeFiles_distinct hrules he rfl words_crowded hbuild hn hsecond hn hfirst
    (by decide)).2 (by decide) (crowdedSession []) hprocessors 1 _ hcrowded.step _ hcrowded.found
  rcases hkeeps with hkept | ⟨-, hlinks | hextension⟩
  · exact ⟨e, ⟨rules, hrules, he⟩, t, hbuild, _, hcrowded.found, hkept⟩
  · exact absurd rfl hlinks
  · exact absurd hextension hslash

/-- Two types of one tree with one path, and pairs with different paths where one type's file
replaces the other's: by a link, and by an extension that leads up. -/
theorem typeFiles_shared :
    ∃ e : Encoder, e.IsFor Target.javaScript ∧ ∃ t slashed : Tree,
      build (fun _ => true) crowded ⟨"src/a"⟩ (crowdedLayout e ".js") = .ok t ∧
      build (fun _ => true) crowded ⟨"src/a"⟩ (crowdedLayout e ".x/../y") = .ok slashed ∧
      (∀ ty ∈ crowded.types, ∀ c ∈ Text.components ty.fullName,
        c ≠ "" ∧ ∀ ch ∈ c.toList, Encoder.isPlain ch = true) ∧
      (∃ n ∈ t.nodes, ∃ n' ∈ t.nodes, ∃ k k' p,
        (k, p) ∈ n.types ∧ (k', p) ∈ n'.types ∧ k ≠ k') ∧
      (crowdedSession [crowdedLink]).replaces t 1 0 = true ∧
      (crowdedSession []).replaces slashed 1 0 = true := by
  obtain ⟨e, he, t, slashed, hbuild, hslashed, hcrowded, hlinked, hup⟩ := exists_crowdedTree
  obtain ⟨n, hn, hk⟩ := hcrowded.stropped
  obtain ⟨n', hn', hk'⟩ := hcrowded.reserved
  exact ⟨e, he, t, slashed, hbuild, hslashed, words_crowded,
    ⟨n, hn, n', hn', _, _, _, hk, hk', by decide⟩, hlinked, hup⟩

end Tree

end SchemaForge
