import SchemaForge.Proofs.Generation.Run
import SchemaForge.Proofs.Namespace.Shape
import SchemaForge.Proofs.Output.Processors

/-! Dry runs. A dry run looks for the same templates as a run that writes, in the same order, and so
it names the same files and fails where no template is found. That the templates are found in
files that earlier steps may have written is all that can make the two differ. -/

namespace SchemaForge

def Generator.supportOutputs (g : Generator) : List Path :=
  if g.context.omitSupport then []
  else g.language.plugin.supportTemplates.map fun (stem, _) => g.supportPath stem

def Generator.outputs (g : Generator) (tree : Tree) : List Path :=
  g.supportOutputs ++ (g.entities tree).map (·.2)

theorem Generator.map_supportTemplates (g : Generator) (fs : FileSystem) :
    (g.supportTemplates fs).map (fun template => g.supportPath template.stem) =
      g.language.plugin.supportTemplates.map fun (stem, _) => g.supportPath stem := by
  rw [supportTemplates, List.map_map]
  apply List.map_congr_left
  intro entry _
  have hstem : (g.supportTemplate fs entry.1 entry.2).stem = entry.1 := by
    rw [supportTemplate]
    split
    · rfl
    · rfl
  rw [Function.comp_apply, hstem]

theorem SameSetup.supportOutputs {s t : Session} (h : SameSetup s t) :
    t.generator.supportOutputs = s.generator.supportOutputs := by
  have hcontext : t.generator.context = s.generator.context := congrArg Generator.Setup.context h
  have hlanguage : t.generator.language = s.generator.language :=
    congrArg Generator.Setup.language h
  rw [Generator.supportOutputs, Generator.supportOutputs, hcontext, hlanguage]
  simp only [h.supportPath]

section Foretold

variable {sources : List TemplateSource} {fs : FileSystem} {items : List (Entity × Path)}
  {first : List Path}

/-- Some paths and those of items, or the failure of the first item without a template. -/
def foretold (sources : List TemplateSource) (fs : FileSystem) (first : List Path)
    (items : List (Entity × Path)) : Except GenerationError (List Path) :=
  match items.find? fun item =>
      (Resolver.lookup? fs sources (EntityKind.ofEntity item.1)).isNone with
  | none => .ok (first ++ items.map (·.2))
  | some item => .error (.templateNotFound item.1.fullName (EntityKind.ofEntity item.1).name)

theorem map_foretold (first : List Path) :
    (foretold sources fs [] items).map (first ++ ·) = foretold sources fs first items := by
  unfold foretold
  split
  · rfl
  · rfl

theorem foretold_cons {item : Entity × Path} {template : TemplateRef}
    (h : Resolver.lookup? fs sources (EntityKind.ofEntity item.1) = some template) :
    foretold sources fs [] (item :: items) = (foretold sources fs [] items).map (item.2 :: ·) := by
  have hfind : (item :: items).find? (fun item =>
      (Resolver.lookup? fs sources (EntityKind.ofEntity item.1)).isNone) =
      items.find? fun item => (Resolver.lookup? fs sources (EntityKind.ofEntity item.1)).isNone := by
    rw [List.find?_cons_of_neg]
    simp [h]
  unfold foretold
  rw [hfind]
  split
  · rfl
  · rfl

theorem isNone_lookup? {e : Entity} :
    (Resolver.lookup? fs sources (EntityKind.ofEntity e)).isNone = true ↔
      ¬ HasTemplate sources fs e := by
  rw [← Resolver.isSome_lookup?, Option.not_isSome_iff_eq_none, Option.isNone_iff_eq_none]

theorem foretold_eq_ok {paths : List Path} :
    foretold sources fs first items = .ok paths ↔
      (∀ item ∈ items, HasTemplate sources fs item.1) ∧ paths = first ++ items.map (·.2) := by
  unfold foretold
  split
  · rename_i hnone
    simp only [List.find?_eq_none, isNone_lookup?, not_not] at hnone
    rw [Except.ok.injEq, eq_comm]
    exact ⟨fun h => ⟨hnone, h⟩, And.right⟩
  · rename_i item hsome
    have hmissing := List.find?_some hsome
    rw [isNone_lookup?] at hmissing
    constructor
    · intro h
      cases h
    · intro h
      exact absurd (h.1 item (List.mem_of_find?_eq_some hsome)) hmissing

theorem find?_isNone_lookup? {item : Entity × Path} :
    items.find? (fun item => (Resolver.lookup? fs sources (EntityKind.ofEntity item.1)).isNone) =
      some item ↔
    ∃ before after, items = before ++ item :: after ∧
      (∀ other ∈ before, HasTemplate sources fs other.1) ∧ ¬ HasTemplate sources fs item.1 := by
  simp only [List.find?_eq_some_iff_append, isNone_lookup?, Bool.not_eq_true',
    Option.isNone_eq_false_iff, Resolver.isSome_lookup?]
  constructor
  · intro ⟨hmissing, before, after, hitems, hbefore⟩
    exact ⟨before, after, hitems, hbefore, hmissing⟩
  · intro ⟨before, after, hitems, hbefore, hmissing⟩
    exact ⟨hmissing, before, after, hitems, hbefore⟩

theorem foretold_eq_error {e : GenerationError} :
    foretold sources fs first items = .error e ↔
      ∃ item, (∃ before after, items = before ++ item :: after ∧
        (∀ other ∈ before, HasTemplate sources fs other.1) ∧ ¬ HasTemplate sources fs item.1) ∧
        e = .templateNotFound item.1.fullName (EntityKind.ofEntity item.1).name := by
  simp only [← find?_isNone_lookup?, foretold]
  split
  · rename_i hnone
    simp [hnone]
  · rename_i item hsome
    simp [hsome, eq_comm]

end Foretold

namespace Generate

variable {s : Session} {tree : Tree} {fs : FileSystem}

theorem exec_resolve_spec {t : Session} (hcache : t.generator.resolver.Remembers fs)
    (hsame : SameTemplates t.generator.resolver.sources fs t.files) (e : Entity) :
    ∃ r : Resolver, r.Remembers fs ∧ r.sources = t.generator.resolver.sources ∧
      exec (resolve e) { t with generator := t.generator.nextFile } =
        ((match Resolver.lookup? fs t.generator.resolver.sources (EntityKind.ofEntity e) with
          | some template => .ok template
          | none => .error (.templateNotFound e.fullName (EntityKind.ofEntity e).name)),
          { t with generator := { t.generator.nextFile with resolver := r } }) := by
  obtain ⟨hresult, hremembers⟩ :=
    Resolver.resolve_spec hcache hsame (EntityKind.ofEntity e) e.fullName
  refine ⟨_, hremembers, Resolver.sources_resolve _ _ _ _, ?_⟩
  rw [exec_resolve]
  exact Prod.ext hresult rfl

section Dry

structure Dry (s t : Session) : Prop where
  dryRun : t.generator.options.dryRun = true
  setup : SameSetup s t
  files : t.files = s.files
  remembers : t.generator.resolver.Remembers s.files

theorem Dry.entity {t : Session} (h : Dry s t) (tree : Tree) (e : Entity) (path : Path)
    (includes : List String) :
    ∃ u, Dry s u ∧ exec (entity tree e path includes) t =
      ((match Resolver.lookup? s.files s.generator.resolver.sources (EntityKind.ofEntity e) with
        | some _ => .ok path
        | none => .error (.templateNotFound e.fullName (EntityKind.ofEntity e).name)), u) := by
  have hsame : SameTemplates t.generator.resolver.sources s.files t.files := by
    intro source _ kind
    rw [h.files]
  obtain ⟨r, hr, hsources, hresolve⟩ := exec_resolve_spec h.remembers hsame e
  have hsetup : SameSetup s { t with generator := { t.generator.nextFile with resolver := r } } := by
    refine SameSetup.trans s t _ h.setup ?_
    simp only [SameSetup, Generator.setup, hsources]
    rfl
  have hdry : t.generator.nextFile.options.dryRun = true := h.dryRun
  refine ⟨{ t with generator := { t.generator.nextFile with resolver := r } },
    ⟨hdry, hsetup, h.files, hr⟩, ?_⟩
  rw [exec_entity, hresolve, h.setup.sources]
  cases Resolver.lookup? s.files s.generator.resolver.sources (EntityKind.ofEntity e) with
  | none => rfl
  | some template => simp only [hdry, if_true]

/-- The paths of a dry run, and its failure, are those of the templates at its start. -/
theorem Dry.entities {t : Session} (h : Dry s t) (tree : Tree) (g : Generator) (paths : List Path)
    (items : List (Entity × Path)) :
    ∃ u, Dry s u ∧ exec (items.mapM (entityStep g tree paths)) t =
      (foretold s.generator.resolver.sources s.files [] items, u) := by
  induction items generalizing t with
  | nil => exact ⟨t, h, rfl⟩
  | cons item rest ih =>
    obtain ⟨u, hu, hstep⟩ := h.entity tree item.1 item.2 (includesFor g tree
      (paths.filterMap fun p => p.relativeTo? g.layout.outputDir) item.1)
    obtain ⟨v, hv, hrest⟩ := ih hu
    change exec (entityStep g tree paths item) t = _ at hstep
    rw [exec_mapM_cons, hstep]
    cases hfound : Resolver.lookup? s.files s.generator.resolver.sources
        (EntityKind.ofEntity item.1) with
    | none =>
      refine ⟨u, hu, ?_⟩
      simp [foretold, hfound]
    | some template =>
      refine ⟨v, hv, ?_⟩
      dsimp only
      rw [hrest, foretold_cons hfound]

theorem Dry.supportFiles {t : Session} (h : Dry s t) (templates : List TemplateRef) :
    ∃ u, Dry s u ∧ exec (templates.mapM supportFile) t =
      (.ok (templates.map fun template => s.generator.supportPath template.stem), u) := by
  induction templates generalizing t with
  | nil => exact ⟨t, h, rfl⟩
  | cons template rest ih =>
    have hnext : Dry s { t with generator := t.generator.nextFile } :=
      ⟨h.dryRun, h.setup, h.files, h.remembers⟩
    obtain ⟨u, hu, hrest⟩ := ih hnext
    refine ⟨u, hu, ?_⟩
    rw [exec_mapM_cons, exec_supportFile, if_pos h.dryRun]
    dsimp only
    rw [hrest, h.setup.supportPath]
    rfl

theorem Dry.support {t : Session} (h : Dry s t) :
    ∃ u, Dry s u ∧ exec support t = (.ok s.generator.supportOutputs, u) := by
  obtain ⟨u, hu, hfiles⟩ := h.supportFiles (t.generator.supportTemplates t.files)
  rw [exec_support, ← h.setup.supportOutputs, Generator.supportOutputs]
  split
  · exact ⟨t, h, rfl⟩
  · refine ⟨u, hu, ?_⟩
    simp only [← h.setup.supportPath] at hfiles
    rw [hfiles, Generator.map_supportTemplates]

end Dry

section Written

variable {t u : Session} {path path' : Path}

theorem write_ok {template : TemplateRef} {data : Json}
    (h : ∀ f ∈ t.generator.processors, f.KeepsPath)
    (hrun : exec (write template data path) t = (.ok path', u)) :
    path' = path ∧ u.generator.resolver = t.generator.resolver := by
  rw [exec_write] at hrun
  split at hrun
  · cases hrun
  · rename_i loc files _
    have hsetup := sameSetup_fill { t with files } loc template data path
    have hresolver : (fill { t with files } loc template data path).2.generator.resolver =
        t.generator.resolver := rfl
    split at hrun
    · cases hrun
    · rename_i v heq
      rw [heq] at hsetup hresolver
      obtain ⟨hresult, rfl⟩ := Prod.mk.inj hrun
      exact ⟨FileProcessor.eq_of_runAll (hsetup.forall_processors h) hresult, hresolver⟩

theorem entity_ok (h : ∀ f ∈ t.generator.processors, f.KeepsPath)
    (hcache : t.generator.resolver.Remembers fs)
    (hsame : SameTemplates t.generator.resolver.sources fs t.files) {e : Entity}
    {includes : List String} (hrun : exec (entity tree e path includes) t = (.ok path', u)) :
    path' = path ∧ HasTemplate t.generator.resolver.sources fs e ∧
      u.generator.resolver.Remembers fs := by
  obtain ⟨r, hr, hsources, hresolve⟩ := exec_resolve_spec hcache hsame e
  rw [exec_entity, hresolve] at hrun
  rw [← Resolver.isSome_lookup?]
  cases hlookup : Resolver.lookup? fs t.generator.resolver.sources (EntityKind.ofEntity e) with
  | none =>
    rw [hlookup] at hrun
    cases hrun
  | some template =>
    rw [hlookup] at hrun
    dsimp only at hrun
    split at hrun
    · cases hrun
      exact ⟨rfl, rfl, hr⟩
    · obtain ⟨hpath, hresolver⟩ :=
        write_ok (t := { t with generator := { t.generator.nextFile with resolver := r } }) h hrun
      refine ⟨hpath, rfl, ?_⟩
      rw [hresolver]
      exact hr

/-- While the templates stay what they were, a run that succeeds has found one for each item. -/
theorem entities_ok {g : Generator} {paths paths' : List Path} {items : List (Entity × Path)}
    (h : ∀ f ∈ t.generator.processors, f.KeepsPath)
    (hcache : t.generator.resolver.Remembers fs)
    (hkept : ∀ n, SameTemplates t.generator.resolver.sources fs
      (exec ((items.take n).mapM (entityStep g tree paths)) t).2.files)
    (hrun : exec (items.mapM (entityStep g tree paths)) t = (.ok paths', u)) :
    paths' = items.map (·.2) ∧
      ∀ item ∈ items, HasTemplate t.generator.resolver.sources fs item.1 := by
  induction items generalizing t paths' with
  | nil =>
    cases hrun
    exact ⟨rfl, fun item hitem => nomatch hitem⟩
  | cons item rest ih =>
    have hsetup := sameSetup_entity tree item.1 item.2 (includesFor g tree
      (paths.filterMap fun p => p.relativeTo? g.layout.outputDir) item.1) t
    change SameSetup t (exec (entityStep g tree paths item) t).2 at hsetup
    obtain ⟨path, v, more, hstep, hrest, rfl⟩ := exec_mapM_cons_eq_ok hrun
    rw [hstep] at hsetup
    obtain ⟨hpath, hitem, hremembers⟩ := entity_ok h hcache (hkept 0) hstep
    -- The states of the rest of the run are those of this run from its second on.
    have hlater : ∀ n, SameTemplates v.generator.resolver.sources fs
        (exec ((rest.take n).mapM (entityStep g tree paths)) v).2.files := by
      intro n
      have hnext := hkept (n + 1)
      rw [List.take_succ_cons, exec_mapM_cons, hstep] at hnext
      rw [hsetup.sources]
      exact hnext
    obtain ⟨hpaths, hitems⟩ := ih (hsetup.forall_processors h) hremembers hlater hrest
    rw [hsetup.sources] at hitems
    rw [hpath, hpaths]
    exact ⟨rfl, List.forall_mem_cons.mpr ⟨hitem, hitems⟩⟩

theorem supportFile_ok {template : TemplateRef} (h : ∀ f ∈ t.generator.processors, f.KeepsPath)
    (hrun : exec (supportFile template) t = (.ok path', u)) :
    path' = t.generator.supportPath template.stem ∧
      u.generator.resolver = t.generator.resolver := by
  rw [exec_supportFile] at hrun
  split at hrun
  · cases hrun
    exact ⟨rfl, rfl⟩
  · exact write_ok (t := { t with generator := t.generator.nextFile }) h hrun

theorem supportFiles_ok {paths : List Path} {templates : List TemplateRef}
    (h : ∀ f ∈ t.generator.processors, f.KeepsPath)
    (hrun : exec (templates.mapM supportFile) t = (.ok paths, u)) :
    paths = templates.map (fun template => t.generator.supportPath template.stem) ∧
      u.generator.resolver = t.generator.resolver := by
  induction templates generalizing t paths with
  | nil =>
    cases hrun
    exact ⟨rfl, rfl⟩
  | cons template rest ih =>
    have hsetup := sameSetup_supportFile template t
    obtain ⟨path, v, more, hstep, hrest, rfl⟩ := exec_mapM_cons_eq_ok hrun
    rw [hstep] at hsetup
    obtain ⟨hpaths, hresolver⟩ := ih (hsetup.forall_processors h) hrest
    simp only [hsetup.supportPath] at hpaths
    obtain ⟨hpath, hfirst⟩ := supportFile_ok h hstep
    exact ⟨by rw [hpath, hpaths, List.map_cons], hresolver.trans hfirst⟩

theorem support_ok {paths : List Path} (h : ∀ f ∈ t.generator.processors, f.KeepsPath)
    (hrun : exec support t = (.ok paths, u)) :
    paths = t.generator.supportOutputs ∧ u.generator.resolver = t.generator.resolver := by
  rw [exec_support] at hrun
  rw [Generator.supportOutputs]
  split at hrun
  · rename_i homit
    cases hrun
    exact ⟨by rw [if_pos homit], rfl⟩
  · rename_i homit
    obtain ⟨hpaths, hresolver⟩ := supportFiles_ok h hrun
    rw [if_neg homit, ← Generator.map_supportTemplates _ t.files]
    exact ⟨hpaths, hresolver⟩

end Written

end Generate

namespace Session

open Generate

variable {s : Session} {tree : Tree}

theorem dry_start (h : s.generator.options.dryRun = true) :
    Dry s { s with generator := s.generator.start } where
  dryRun := h
  setup := rfl
  files := rfl
  remembers := fun _ _ hlookup => nomatch hlookup

theorem generateAll_dry (h : s.generator.options.dryRun = true) (tree : Tree) :
    ∃ u : Session, u.files = s.files ∧ s.generateAll tree =
      (foretold s.generator.resolver.sources s.files s.generator.supportOutputs
        (s.generator.entities tree), u) := by
  obtain ⟨t, ht, hsupport⟩ := (dry_start h).support
  obtain ⟨u, hu, hentities⟩ := ht.entities tree t.generator s.generator.supportOutputs
    (s.generator.entities tree)
  refine ⟨u, hu.files, ?_⟩
  change exec (all tree) s = _
  rw [exec_all, hsupport]
  dsimp only
  rw [ht.setup.entities, hentities, ← map_foretold s.generator.supportOutputs]
  cases foretold s.generator.resolver.sources s.files [] (s.generator.entities tree) with
  | error e => rfl
  | ok paths => rfl

/-- While the templates stay what they were, a run that succeeds gives the foretold paths and has
found a template for every type and namespace. -/
theorem generateAll_ok {paths : List Path} (h : ∀ f ∈ s.generator.processors, f.KeepsPath)
    (hkept : ∀ n, SameTemplates s.generator.resolver.sources s.files (s.after tree n).files)
    (hrun : (s.generateAll tree).1 = .ok paths) :
    paths = s.generator.outputs tree ∧
      ∀ item ∈ s.generator.entities tree, HasTemplate s.generator.resolver.sources s.files item.1 := by
  have hall : exec (all tree) s = (.ok paths, (s.generateAll tree).2) := by
    rw [← hrun]
    rfl
  obtain ⟨first, t, more, hsupport, hentities, rfl⟩ := exec_all_eq_ok hall
  obtain ⟨hfirst, hresolver⟩ :=
    support_ok (t := { s with generator := s.generator.start }) h hsupport
  have hsetup := sameSetup_support { s with generator := s.generator.start }
  rw [hsupport] at hsetup
  have hsources : t.generator.resolver.sources = s.generator.resolver.sources := hsetup.sources
  have hitems : t.generator.entities tree = s.generator.entities tree := hsetup.entities tree
  -- A run starts with nothing remembered, and support files are not looked up by kind.
  have hcache : t.generator.resolver.Remembers s.files := by
    rw [hresolver]
    intro _ _ hlookup
    cases hlookup
  simp only [after_of_support hsupport, ← hsources] at hkept
  obtain ⟨hmore, hfound⟩ := entities_ok (hsetup.forall_processors h) hcache hkept hentities
  rw [hsources, hitems] at hfound
  rw [Generator.outputs, hfirst, hmore, hitems]
  exact ⟨rfl, hfound⟩

def withDryRun (s : Session) (dryRun : Bool) : Session :=
  { s with generator := { s.generator with options := { s.generator.options with dryRun } } }

/-- A dry run changes no file, and fails only for the first type or namespace, in the order of the
walk, that has no template. It tells the paths of the run that writes, if that run succeeds. -/
theorem dryRun_foretells (s : Session) (tree : Tree) :
    ((s.withDryRun true).generateAll tree).2.files = s.files ∧
    (∀ paths, ((s.withDryRun true).generateAll tree).1 = .ok paths ↔
      (∀ item ∈ s.generator.entities tree, HasTemplate s.generator.resolver.sources s.files item.1) ∧
        paths = s.generator.outputs tree) ∧
    (∀ e, ((s.withDryRun true).generateAll tree).1 = .error e ↔
      ∃ item, (∃ before after, s.generator.entities tree = before ++ item :: after ∧
        (∀ other ∈ before, HasTemplate s.generator.resolver.sources s.files other.1) ∧
        ¬ HasTemplate s.generator.resolver.sources s.files item.1) ∧
        e = .templateNotFound item.1.fullName (EntityKind.ofEntity item.1).name) ∧
    ((∀ f ∈ s.generator.processors, f.KeepsPath) →
      (∀ n, SameTemplates s.generator.resolver.sources s.files
        ((s.withDryRun false).after tree n).files) →
      ∀ paths, ((s.withDryRun false).generateAll tree).1 = .ok paths →
        ((s.withDryRun true).generateAll tree).1 = .ok paths ∧
          paths = s.generator.outputs tree) := by
  obtain ⟨u, hfiles, hdry⟩ := generateAll_dry (s := s.withDryRun true) rfl tree
  change (s.withDryRun true).generateAll tree =
    (foretold s.generator.resolver.sources s.files s.generator.supportOutputs
      (s.generator.entities tree), u) at hdry
  rw [hdry]
  refine ⟨hfiles, fun paths => foretold_eq_ok, fun e => foretold_eq_error, ?_⟩
  intro hprocessors hkept paths hrun
  have hall := generateAll_ok (s := s.withDryRun false) hprocessors hkept hrun
  exact ⟨foretold_eq_ok.mpr hall.symm, hall.1⟩

/-- A session with a template for types in a directory, where finished files are read-only. -/
def sample : Session where
  files := {
    entries := [
      (["work"], .directory 0o755),
      (["work", "own"], .directory 0o755),
      (["work", "own", "CompositeType.hbs"], .file 0o644 [])] }
  generator := {
    language := {
      plugin := { name := "demo", draft := .ok Target.c.draft, supportTemplates := [("data", "")] }
      rules := { language := { name := "demo", extension := ".h", supportNamespace := [] } }
      encoder := Tree.sampleLayout.encoder }
    layout := Tree.sampleLayout
    options := {}
    context := { language := "demo", omitSupport := false, namespaceTypes := false }
    resolver := { sources := [.directory ⟨"own"⟩, .inline "demo" [("Namespace", "")]] }
    renderer := .custom [] fun _ _ _ => (.ok (), [[35, 10]])
    processors := [.setMode 0o444] }

theorem dryRun_foretells_sample :
    ∃ t, Tree.build (fun _ => true)
        { types := [Sample.composite Sample.heartbeat .struct [] none], distinct := by decide }
        ⟨"dsdl/demo"⟩ Tree.sampleLayout = .ok t ∧
      ((sample.withDryRun false).generateAll t).1 =
        .ok [⟨"out/data.h"⟩, ⟨"out/demo/Heartbeat_1_0.h"⟩] ∧
      ((sample.withDryRun true).generateAll t).1 =
        .ok [⟨"out/data.h"⟩, ⟨"out/demo/Heartbeat_1_0.h"⟩] := by
  have hfacts : (Tree.build (fun _ => true)
      { types := [Sample.composite Sample.heartbeat .struct [] none], distinct := by decide }
      ⟨"dsdl/demo"⟩ Tree.sampleLayout).map (fun t =>
        ((sample.generator.entities t).length, (sample.generateAll t).1,
          decide (SameTemplates sample.generator.resolver.sources sample.files
            (sample.after t 0).files),
          decide (SameTemplates sample.generator.resolver.sources sample.files
            (sample.generateAll t).2.files))) =
      .ok (1, .ok [⟨"out/data.h"⟩, ⟨"out/demo/Heartbeat_1_0.h"⟩], true, true) := by
    decide +kernel
  cases hbuild : Tree.build (fun _ => true)
      { types := [Sample.composite Sample.heartbeat .struct [] none], distinct := by decide }
      ⟨"dsdl/demo"⟩ Tree.sampleLayout with
  | error e =>
    rw [hbuild] at hfacts
    cases hfacts
  | ok t =>
    rw [hbuild] at hfacts
    simp only [Except.map, Except.ok.injEq, Prod.mk.injEq, decide_eq_true_eq] at hfacts
    obtain ⟨hlength, hrun, hfirst, hlast⟩ := hfacts
    have hprocessors : ∀ f ∈ sample.generator.processors, f.KeepsPath := by
      intro f hf
      rw [List.mem_singleton.mp hf]
      exact FileProcessor.keepsPath_setMode _
    have hkept : ∀ n, SameTemplates sample.generator.resolver.sources sample.files
        ((sample.withDryRun false).after t n).files := by
      intro n
      cases n with
      | zero => exact hfirst
      | succ n =>
        have hdone : sample.after t (n + 1) = (sample.generateAll t).2 :=
          after_eq_generateAll (by omega)
        change SameTemplates _ _ (sample.after t (n + 1)).files
        rw [hdone]
        exact hlast
    exact ⟨t, rfl, hrun,
      ((dryRun_foretells sample t).2.2.2 hprocessors hkept _ hrun).1⟩

end Session

end SchemaForge
