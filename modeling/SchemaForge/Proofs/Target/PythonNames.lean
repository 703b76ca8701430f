import SchemaForge.Proofs.Generation.Compiled
import SchemaForge.Proofs.Naming.Enclosed
import SchemaForge.Proofs.Naming.Legal
import SchemaForge.Proofs.Target.PythonFile
import SchemaForge.Schema.Sample

/-! The names of types in Python. The file of a namespace imports from the file of each of its types
the name that this file has. The class in it is named by the short name as an identifier, so it is
found unless the short name is reserved. -/

namespace SchemaForge

namespace Language

variable {fs : FileSystem} {target : Target}

theorem load_builtin (fs : FileSystem) (target : Target) :
    load fs (Plugin.ofTarget target) [] =
      match target.draft.load with
      | .ok rules => withRules (Plugin.ofTarget target) rules
      | .error e => .error (.rules e) :=
  rfl

theorem of_load {l : Language} (h : load fs (Plugin.ofTarget target) [] = .ok l) :
    l.plugin = Plugin.ofTarget target ∧ target.draft.load = .ok l.rules ∧
      Encoder.ofLanguage l.rules = .ok l.encoder := by
  rw [load_builtin] at h
  cases hrules : target.draft.load with
  | error e =>
    rw [hrules] at h
    cases h
  | ok rules =>
    rw [hrules] at h
    dsimp only [withRules] at h
    cases hencoder : Encoder.ofLanguage rules with
    | error e =>
      rw [hencoder] at h
      cases h
    | ok encoder =>
      rw [hencoder] at h
      cases h
      exact ⟨rfl, rfl, hencoder⟩

theorem exists_load {e : Encoder} (he : e.IsFor target) (fs : FileSystem) :
    ∃ l, load fs (Plugin.ofTarget target) [] = .ok l ∧ l.encoder = e := by
  obtain ⟨rules, hload, he⟩ := he
  refine ⟨⟨Plugin.ofTarget target, rules, e⟩, ?_, rfl⟩
  rw [load_builtin, hload]
  dsimp only [withRules]
  rw [he]

end Language

namespace Encoder

variable {e : Encoder} {token : String}

theorem IsIdentifier.encode_python_iff (h : IsIdentifier token.toList)
    (he : e.IsFor Target.python) : e.encode token = token ↔
      token ∉ Rules.listedWords Target.python.table ∧ ¬ IsEnclosed token.toList := by
  have hsteps := he.stepsFor
  have hguard : ¬ e.guardStart = true := by simp [hsteps.guardStart]
  have hsplit : ¬ e.splitDouble = true := by simp [hsteps.splitDouble]
  have haffixed : e.stropBefore ++ e.stropAfter ≠ [] := by simp [hsteps.affixes]
  have hline : '\n' ∉ token.toList := fun hmem => absurd (h.chars _ hmem) (by decide)
  rw [← String.toList_inj, encode, String.toList_ofList,
    h.encodeChars_eq_self_iff hsteps.enabled haffixed, Bool.eq_false_iff, Ne,
    he.underscored.isReserved_iff hline, he.mem_words, String.ofList_toList, not_or]
  simp [hguard, hsplit]

end Encoder

namespace Python

variable {fs : FileSystem} {l : Language} {engine : Engine}

def typeRef : TemplateRef :=
  ⟨"CompositeType", .inline "py" Target.pythonCompositeType⟩

def spaceRef : TemplateRef :=
  ⟨"Namespace", .inline "py" Target.pythonNamespace⟩

theorem sources_eq (hload : Language.load fs (Plugin.ofTarget .python) [] = .ok l)
    (outputDir : Path) (options : Options) (now : Int) :
    (Generator.ofLanguage l outputDir options now).resolver.sources =
      [TemplateSource.ofTemplates "py" Target.python.templates] := by
  obtain ⟨hplugin, hrules, -⟩ := Language.of_load hload
  have htable : (Rules.languageRules? Target.python.table).all
      (fun rules => rules.language.name == "py") = true := by decide +kernel
  have hname := Target.of_load hrules htable
  have htemplates : l.plugin.templates = Target.python.templates :=
    congrArg Plugin.templates hplugin
  simp only [Generator.ofLanguage, Resolver.addSource, List.nil_append, Language.name,
    beq_iff_eq.mp hname, htemplates]

theorem lookup?_type {t : CompositeType} (h : t.isService = false) (fs : FileSystem) :
    Resolver.lookup? fs [TemplateSource.ofTemplates "py" Target.python.templates]
      (EntityKind.ofType t) = some typeRef := by
  obtain ⟨fullName, version, kind, attributes, parentService, deprecated⟩ := t
  cases kind with
  | struct => rfl
  | union => rfl
  | service request response => cases h

theorem lookup?_space (fs : FileSystem) :
    Resolver.lookup? fs [TemplateSource.ofTemplates "py" Target.python.templates] .space =
      some spaceRef :=
  rfl

theorem render_type (h : engine.Serves l fs typeRef) (names : UniqueNames) (c : Context)
    (catalog : Catalog) (t : CompositeType) (includes : List String) :
    (engine.render fs names typeRef (Data.forType l c catalog t includes)).result = .ok () ∧
      (engine.render fs names typeRef (Data.forType l c catalog t includes)).text =
        typeFile l c t :=
  h.render (TemplateRef.nodes_of_parse rfl Template.parse_pythonCompositeType)
    (fun _ names id hlib => Template.render_pythonTypeTree hlib names id c catalog t includes) names

theorem render_space (h : engine.Serves l fs spaceRef) (names : UniqueNames) (c : Context)
    (n : Namespace) :
    (engine.render fs names spaceRef (Data.forNamespace l c n)).result = .ok () ∧
      (engine.render fs names spaceRef (Data.forNamespace l c n)).text = spaceFile c n :=
  h.render (TemplateRef.nodes_of_parse rfl Template.parse_pythonNamespace)
    (fun lib names id _ => Template.render_pythonSpaceTree lib l names id c n) names

theorem className_eq_typeStem_iff (l : Language) (k : TypeKey) :
    className l k = Layout.typeStem k ↔ l.encoder.encode k.shortName = k.shortName := by
  simp only [className, Layout.typeStem, String.append_left_inj]

theorem importLine_infix {n : Namespace} {k : TypeKey} {path : Path} (h : (k, path) ∈ n.types)
    (c : Context) : importLine (Layout.typeStem k) <:+: spaceFile c n := by
  have hmem : importLine (Layout.typeStem k) ∈
      n.types.map fun entry => importLine (Layout.typeStem entry.1) :=
    List.mem_map.mpr ⟨(k, path), h, rfl⟩
  have himports := List.infix_of_mem_flatten hmem
  rw [← List.flatMap_def] at himports
  exact himports.trans (List.suffix_append (spaceTop c n) _).isInfix

/-- For a structure or union whose short name is an identifier, the template that is found prints a
class of that name, and the one for its namespace an import of the stem of its file. The two are the
same name exactly if the short name is no reserved word and is not enclosed in underscores. -/
theorem class_imported_iff (hload : Language.load fs (Plugin.ofTarget .python) [] = .ok l)
    (outputDir : Path) (options : Options) (now : Int) {t : CompositeType}
    (hkind : t.isService = false) (hname : Encoder.IsIdentifier t.shortName.toList) :
    let sources := (Generator.ofLanguage l outputDir options now).resolver.sources
    Resolver.lookup? fs sources (EntityKind.ofType t) = some typeRef ∧
      Resolver.lookup? fs sources .space = some spaceRef ∧
      (∀ engine : Engine, engine.Serves l fs typeRef → ∀ names c catalog includes,
        let done := engine.render fs names typeRef (Data.forType l c catalog t includes)
        done.result = .ok () ∧
          done.text = top c t ++ (classLine (className l t.key) ++ body l t)) ∧
      (∀ engine : Engine, engine.Serves l fs spaceRef →
        ∀ names c (n : Namespace) path, (t.key, path) ∈ n.types →
        let done := engine.render fs names spaceRef (Data.forNamespace l c n)
        done.result = .ok () ∧ importLine (Layout.typeStem t.key) <:+: done.text) ∧
      (className l t.key = Layout.typeStem t.key ↔
        t.shortName ∉ Rules.listedWords Target.python.table ∧
          ¬ Encoder.IsEnclosed t.shortName.toList) := by
  intro sources
  have hsources : sources = [TemplateSource.ofTemplates "py" Target.python.templates] :=
    sources_eq hload outputDir options now
  obtain ⟨-, hrules, hencoder⟩ := Language.of_load hload
  refine ⟨?_, ?_, ?_, ?_, ?_⟩
  · rw [hsources]
    exact lookup?_type hkind fs
  · rw [hsources]
    exact lookup?_space fs
  · intro engine hserves names c catalog includes
    exact render_type hserves names c catalog t includes
  · intro engine hserves names c n path hentry
    obtain ⟨hresult, htext⟩ := render_space hserves names c n
    exact ⟨hresult, htext ▸ importLine_infix hentry c⟩
  · rw [className_eq_typeStem_iff]
    exact hname.encode_python_iff ⟨l.rules, hrules, hencoder⟩

/-- A type whose short name is not reserved. -/
theorem class_imported_value : ∃ l, Language.load {} (Plugin.ofTarget .python) [] = .ok l ∧
    let t := Sample.composite Sample.value .union [] none
    t.isService = false ∧ Encoder.IsIdentifier t.shortName.toList ∧
      className l t.key = "Value_1_0" ∧
      (∀ names c catalog, ((Engine.ofLanguage l).render {} names typeRef
        (Data.forType l c catalog t [])).text =
          top c t ++ (classLine "Value_1_0" ++ "    pass\n".toList)) ∧
      ∀ names c (n : Namespace) path, (t.key, path) ∈ n.types →
        importLine "Value_1_0" <:+: ((Engine.ofLanguage l).render {} names spaceRef
          (Data.forNamespace l c n)).text := by
  obtain ⟨e, he⟩ := Encoder.exists_isFor .python
  obtain ⟨l, hload, rfl⟩ := Language.exists_load he {}
  have hshort : (Sample.composite Sample.value .union [] none).shortName = "Value" := by decide
  have hname : Encoder.IsIdentifier "Value".toList :=
    Encoder.isIdentifier_of_startsName (List.all_eq_true.mp (by decide))
      ⟨'V', ['a', 'l', 'u', 'e'], rfl, by decide⟩
  have hfree : "Value" ∉ Rules.listedWords Target.python.table ∧
      ¬ Encoder.IsEnclosed "Value".toList := by
    refine ⟨by decide +kernel, ?_⟩
    rintro ⟨mid, -, hmid⟩
    cases hmid
  obtain ⟨-, -, htype, hspace, hiff⟩ := class_imported_iff hload ⟨"out"⟩ {} 0
    (t := Sample.composite Sample.value .union [] none) rfl (hshort ▸ hname)
  rw [hshort] at hiff
  have hstem : Layout.typeStem Sample.value = "Value_1_0" := by decide
  have hclass := (hiff.mpr hfree).trans hstem
  refine ⟨l, hload, rfl, hshort ▸ hname, hclass, ?_, ?_⟩
  · intro names c catalog
    rw [(htype _ (Engine.Serves.ofLanguage l {} typeRef) names c catalog []).2, hclass]
    rfl
  · intro names c n path hentry
    rw [← hstem]
    exact (hspace _ (Engine.Serves.ofLanguage l {} spaceRef) names c n path hentry).2

/-- The class of a type that is named like a reserved word has one underscore more than the file
that it is imported from. -/
theorem class_imported_type : ∃ l, Language.load {} (Plugin.ofTarget .python) [] = .ok l ∧
    let t := Sample.composite ⟨"a.type", Sample.version⟩ .struct [] none
    t.isService = false ∧ Encoder.IsIdentifier t.shortName.toList ∧
      className l t.key = "type__1_0" ∧ Layout.typeStem t.key = "type_1_0" ∧
      (∀ names c catalog, ((Engine.ofLanguage l).render {} names typeRef
        (Data.forType l c catalog t [])).text =
          top c t ++ (classLine "type__1_0" ++ "    pass\n".toList)) ∧
      ∀ names c (n : Namespace) path, (t.key, path) ∈ n.types →
        importLine "type_1_0" <:+: ((Engine.ofLanguage l).render {} names spaceRef
          (Data.forNamespace l c n)).text := by
  obtain ⟨e, he, htest⟩ := Encoder.exists_of_passes
    (show Encoder.passes Target.python (fun e => e.encode "type" == "type_") = true by
      decide +kernel)
  obtain ⟨l, hload, rfl⟩ := Language.exists_load he {}
  have hshort : (⟨"a.type", Sample.version⟩ : TypeKey).shortName = "type" := by decide
  have hname : Encoder.IsIdentifier "type".toList :=
    Encoder.isIdentifier_of_startsName (List.all_eq_true.mp (by decide))
      ⟨'t', ['y', 'p', 'e'], rfl, by decide⟩
  have hclass : className l ⟨"a.type", Sample.version⟩ = "type__1_0" := by
    rw [className, hshort, beq_iff_eq.mp htest]
    decide
  have hstem : Layout.typeStem ⟨"a.type", Sample.version⟩ = "type_1_0" := by decide
  have hidentifier : Encoder.IsIdentifier
      (⟨"a.type", Sample.version⟩ : TypeKey).shortName.toList := hshort ▸ hname
  refine ⟨l, hload, rfl, hidentifier, hclass, hstem, ?_, ?_⟩
  · intro names c catalog
    rw [(render_type (Engine.Serves.ofLanguage l {} typeRef) names c catalog _ []).2, typeFile]
    exact congrArg (fun name => top c _ ++ (classLine name ++ "    pass\n".toList)) hclass
  · intro names c n path hentry
    rw [(render_space (Engine.Serves.ofLanguage l {} spaceRef) names c n).2, ← hstem]
    exact importLine_infix hentry c

end Python

end SchemaForge
