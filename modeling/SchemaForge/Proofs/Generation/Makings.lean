import SchemaForge.Proofs.Generation.DryRun

/-! The files that runs make, one after the other. A generator goes from file to file and from run
to run, and all that it carries along is the result of the files it has made: what each of a few
moves keeps holds wherever a file is made. -/

namespace SchemaForge

/-- A file in the making: the session when the file has been created, and what goes into it. -/
structure Making where
  session : Session
  loc : Location
  template : TemplateRef
  data : Json
  path : Path

namespace Making

def filled (m : Making) : Except GenerationError Unit × Session :=
  Generate.fill m.session m.loc m.template m.data m.path

end Making

namespace Generate

variable {α β : Type}

def writeMakings (template : TemplateRef) (data : Json) (path : Path) (s : Session) : List Making :=
  match s.files.createOutput path s.generator.options.overwrite with
  | (.error _, _) => []
  | (.ok loc, files) => [⟨{ s with files }, loc, template, data, path⟩]

def supportFileMakings (template : TemplateRef) (s : Session) : List Making :=
  if s.generator.options.dryRun then []
  else writeMakings template
    (Data.forSupport s.generator.language s.generator.context template.stem)
    (s.generator.supportPath template.stem) { s with generator := s.generator.nextFile }

def entityMakings (tree : Tree) (e : Entity) (path : Path) (includes : List String) (s : Session) :
    List Making :=
  match exec (resolve e) { s with generator := s.generator.nextFile } with
  | (.error _, _) => []
  | (.ok template, t) =>
    if t.generator.options.dryRun then []
    else writeMakings template (dataFor t.generator tree includes e) path t

/-- The files of steps that are taken one after the other, up to the first that fails. -/
def makingsAlong (f : α → Generate β) (makings : α → Session → List Making) :
    List α → Session → List Making
  | [], _ => []
  | a :: rest, s =>
    makings a s ++
      match exec (f a) s with
      | (.error _, _) => []
      | (.ok _, t) => makingsAlong f makings rest t

def supportMakings (s : Session) : List Making :=
  if s.generator.context.omitSupport then []
  else makingsAlong supportFile supportFileMakings (s.generator.supportTemplates s.files) s

def entityStepMakings (g : Generator) (tree : Tree) (supportPaths : List Path)
    (item : Entity × Path) : Session → List Making :=
  entityMakings tree item.1 item.2 (includesFor g tree
    (supportPaths.filterMap fun p => p.relativeTo? g.layout.outputDir) item.1)

end Generate

open Generate

def Session.makings (s : Session) (tree : Tree) : List Making :=
  supportMakings { s with generator := s.generator.start } ++
    match exec support { s with generator := s.generator.start } with
    | (.error _, _) => []
    | (.ok paths, t) =>
      makingsAlong (entityStep t.generator tree paths) (entityStepMakings t.generator tree paths)
        (t.generator.entities tree) t

/-- The files that a generator makes in runs one after the other, each with the files it finds. -/
def Generator.makings (g : Generator) : List (FileSystem × Tree) → List Making
  | [] => []
  | (files, tree) :: rest =>
    Session.makings ⟨g, files⟩ tree ++
      (Session.generateAll ⟨g, files⟩ tree).2.generator.makings rest

section Paths

namespace Generate

variable {s t u : Session} {path p : Path} {α : Type}

theorem paths_writeMakings {template : TemplateRef} {data : Json}
    (h : exec (write template data path) s = (.ok p, u)) :
    (writeMakings template data path s).map (·.path) = [path] := by
  rw [exec_write] at h
  rw [writeMakings]
  generalize s.files.createOutput path s.generator.options.overwrite = created at h ⊢
  obtain ⟨_ | loc, files⟩ := created
  · cases h
  · rfl

theorem paths_supportFileMakings {template : TemplateRef}
    (hdry : s.generator.options.dryRun = false)
    (h : exec (supportFile template) s = (.ok p, u)) :
    (supportFileMakings template s).map (·.path) = [s.generator.supportPath template.stem] := by
  rw [exec_supportFile, hdry, if_neg (by decide)] at h
  rw [supportFileMakings, hdry, if_neg (by decide)]
  exact paths_writeMakings h

theorem paths_entityMakings {tree : Tree} {e : Entity} {includes : List String}
    (hdry : s.generator.options.dryRun = false)
    (h : exec (entity tree e path includes) s = (.ok p, u)) :
    (entityMakings tree e path includes s).map (·.path) = [path] := by
  have hsetup := sameSetup_resolve e { s with generator := s.generator.nextFile }
  rw [exec_entity] at h
  rw [entityMakings]
  generalize exec (resolve e) { s with generator := s.generator.nextFile } = r at hsetup h ⊢
  obtain ⟨_ | template, t⟩ := r
  · cases h
  · have hoptions : t.generator.options = s.generator.options := SameSetup.options hsetup
    dsimp only at h ⊢
    rw [hoptions, hdry, if_neg (by decide)] at h ⊢
    exact paths_writeMakings h

theorem paths_makingsAlong {f : α → Generate Path} {makings : α → Session → List Making}
    {pathOf : α → Path} (hsetup : ∀ a, Moves SameSetup (f a))
    (hf : ∀ a t p u, SameSetup s t → exec (f a) t = (.ok p, u) →
      (makings a t).map (·.path) = [pathOf a])
    {items : List α} {paths : List Path} (ht : SameSetup s t)
    (h : exec (items.mapM f) t = (.ok paths, u)) :
    (makingsAlong f makings items t).map (·.path) = items.map pathOf := by
  induction items generalizing t paths with
  | nil => rfl
  | cons a rest ih =>
    obtain ⟨p, v, more, hfirst, hrest, -⟩ := exec_mapM_cons_eq_ok h
    have hmoves := hsetup a t
    rw [hfirst] at hmoves
    rw [makingsAlong, hfirst, List.map_append, hf a t p v ht hfirst,
      ih (ht.trans _ _ _ hmoves) hrest]
    rfl

theorem paths_supportMakings {paths : List Path} (hdry : s.generator.options.dryRun = false)
    (h : exec support s = (.ok paths, u)) :
    (supportMakings s).map (·.path) = s.generator.supportOutputs := by
  rw [exec_support] at h
  rw [supportMakings, Generator.supportOutputs]
  split
  · rfl
  · rename_i homit
    rw [if_neg homit] at h
    rw [← Generator.map_supportTemplates _ s.files]
    refine paths_makingsAlong sameSetup_supportFile ?_ (SameSetup.refl s) h
    intro template t p u hsetup hfile
    rw [paths_supportFileMakings (by rw [hsetup.options, hdry]) hfile, hsetup.supportPath]

end Generate

/-- A run that succeeds in writing makes one file for each of its output paths, in their order. -/
theorem Session.paths_makings {s u : Session} {tree : Tree} {paths : List Path}
    (hdry : s.generator.options.dryRun = false) (h : s.generateAll tree = (.ok paths, u)) :
    (s.makings tree).map (·.path) = s.generator.outputs tree := by
  obtain ⟨first, t, more, hsupport, hentities, -⟩ := exec_all_eq_ok h
  have hsetup : SameSetup s t := by
    have hmoves := sameSetup_support { s with generator := s.generator.start }
    rw [hsupport] at hmoves
    exact hmoves
  have hfirst : (supportMakings { s with generator := s.generator.start }).map (·.path) =
      s.generator.supportOutputs :=
    paths_supportMakings (s := { s with generator := s.generator.start }) hdry hsupport
  have hmoves (item : Entity × Path) : Moves SameSetup (entityStep t.generator tree first item) :=
    sameSetup_entity tree item.1 item.2 _
  have hstep (item : Entity × Path) (v : Session) (p : Path) (w : Session) (hv : SameSetup s v)
      (hitem : exec (entityStep t.generator tree first item) v = (.ok p, w)) :
      (entityStepMakings t.generator tree first item v).map (·.path) = [item.2] :=
    paths_entityMakings (by rw [hv.options, hdry]) hitem
  have hrest := paths_makingsAlong hmoves hstep hsetup hentities
  rw [makings, hsupport, List.map_append, hfirst, hrest, hsetup.entities, Generator.outputs]

end Paths

/-- A generator comes to another by making files: it starts runs, prepares for files, and fills
them. -/
inductive Generator.Reaches (g : Generator) : List Making → Generator → Prop where
  | begin : g.Reaches [] g.start
  | start {ms h} : g.Reaches ms h → g.Reaches ms h.start
  /-- Whether or not there will be a file, a template may have been looked for. -/
  | next {ms h} (resolver : Resolver) : g.Reaches ms h → g.Reaches ms { h.nextFile with resolver }
  | make {ms h} (resolver : Resolver) (m : Making) : g.Reaches ms h →
      m.session.generator = { h.nextFile with resolver } →
      g.Reaches (ms ++ [m]) m.filled.2.generator

namespace Generator.Reaches

variable {g h : Generator} {ms before after : List Making} {m : Making}

/-- Wherever a file is made, the generator is one that has been reached by the files before, and
has been prepared for this one. -/
theorem split (hreach : g.Reaches ms h) (hms : ms = before ++ m :: after) :
    ∃ h' resolver, g.Reaches before h' ∧
      m.session.generator = { h'.nextFile with resolver } := by
  induction hreach generalizing after with
  | begin => simp at hms
  | start _ ih => exact ih hms
  | next _ _ ih => exact ih hms
  | @make ms h' resolver last hbefore hlast ih =>
    -- The file is the last one made, or one of those before it.
    rcases List.eq_nil_or_concat after with rfl | ⟨front, other, rfl⟩
    · obtain ⟨rfl, hm⟩ := List.append_inj' hms rfl
      cases hm
      exact ⟨h', resolver, hbefore, hlast⟩
    · rw [List.concat_eq_append, ← List.cons_append, ← List.append_assoc] at hms
      exact ih (List.append_inj' hms rfl).1

end Generator.Reaches

namespace Generate

variable {g : Generator} {ms : List Making} {s : Session} {α β : Type}

/-- However the writing of a file ends, the generator is the one that filled the file, or the one
before if there is no file. -/
theorem reaches_write {h : Generator} (hreach : g.Reaches ms h) {resolver : Resolver}
    (hs : s.generator = { h.nextFile with resolver }) (template : TemplateRef) (data : Json)
    (path : Path) :
    g.Reaches (ms ++ writeMakings template data path s)
      (exec (write template data path) s).2.generator := by
  rw [exec_write, writeMakings]
  rcases s.files.createOutput path s.generator.options.overwrite with ⟨_ | loc, files⟩
  · rw [List.append_nil]
    dsimp only
    rw [hs]
    exact hreach.next resolver
  · have hmake := hreach.make resolver ⟨{ s with files }, loc, template, data, path⟩ hs
    rw [Making.filled] at hmake
    dsimp only at hmake ⊢
    generalize fill { s with files } loc template data path = r at hmake ⊢
    obtain ⟨_ | _, t⟩ := r
    · exact hmake
    · exact hmake

theorem reaches_supportFile (hreach : g.Reaches ms s.generator) (template : TemplateRef) :
    g.Reaches (ms ++ supportFileMakings template s)
      (exec (supportFile template) s).2.generator := by
  rw [exec_supportFile, supportFileMakings]
  split
  · rw [List.append_nil]
    exact hreach.next _
  · exact reaches_write hreach rfl _ _ _

theorem reaches_entity (hreach : g.Reaches ms s.generator) (tree : Tree) (e : Entity) (path : Path)
    (includes : List String) :
    g.Reaches (ms ++ entityMakings tree e path includes s)
      (exec (entity tree e path includes) s).2.generator := by
  rw [exec_entity, entityMakings]
  have hgenerator : ∃ resolver,
      (exec (resolve e) { s with generator := s.generator.nextFile }).2.generator =
        { s.generator.nextFile with resolver } := by
    rw [exec_resolve]
    exact ⟨_, rfl⟩
  generalize exec (resolve e) { s with generator := s.generator.nextFile } = r at hgenerator ⊢
  obtain ⟨_ | template, t⟩ := r
  · obtain ⟨resolver, hgenerator⟩ := hgenerator
    dsimp only at hgenerator ⊢
    rw [List.append_nil, hgenerator]
    exact hreach.next resolver
  · obtain ⟨resolver, hgenerator⟩ := hgenerator
    dsimp only at hgenerator ⊢
    split
    · rw [List.append_nil, hgenerator]
      exact hreach.next resolver
    · exact reaches_write hreach hgenerator _ _ _

theorem reaches_mapM {f : α → Generate β} {makings : α → Session → List Making}
    (hf : ∀ a t ms, g.Reaches ms t.generator →
      g.Reaches (ms ++ makings a t) (exec (f a) t).2.generator)
    (hreach : g.Reaches ms s.generator) (items : List α) :
    g.Reaches (ms ++ makingsAlong f makings items s) (exec (items.mapM f) s).2.generator := by
  induction items generalizing ms s with
  | nil =>
    rw [makingsAlong, List.append_nil]
    exact hreach
  | cons a rest ih =>
    have hfirst := hf a s ms hreach
    rw [makingsAlong, exec_mapM_cons, ← List.append_assoc]
    generalize exec (f a) s = r at hfirst ⊢
    obtain ⟨_ | b, t⟩ := r
    · rw [List.append_nil]
      exact hfirst
    · exact ih hfirst

theorem reaches_support (hreach : g.Reaches ms s.generator) :
    g.Reaches (ms ++ supportMakings s) (exec support s).2.generator := by
  rw [exec_support, supportMakings]
  split
  · rw [List.append_nil]
    exact hreach
  · exact reaches_mapM (fun template _ _ h => reaches_supportFile h template) hreach _

end Generate

theorem Session.reaches_generateAll {g : Generator} {ms : List Making} {s : Session}
    (hreach : g.Reaches ms s.generator.start) (tree : Tree) :
    g.Reaches (ms ++ s.makings tree) (s.generateAll tree).2.generator := by
  have hsupport := reaches_support (s := { s with generator := s.generator.start }) hreach
  change g.Reaches _ (exec (all tree) s).2.generator
  rw [exec_all, makings, ← List.append_assoc]
  generalize exec support { s with generator := s.generator.start } = r at hsupport ⊢
  obtain ⟨_ | paths, t⟩ := r
  · rw [List.append_nil]
    exact hsupport
  · have hstep (item : Entity × Path) (u : Session) (ms : List Making)
        (h : g.Reaches ms u.generator) :
        g.Reaches (ms ++ entityStepMakings t.generator tree paths item u)
          (exec (entityStep t.generator tree paths item) u).2.generator :=
      reaches_entity h tree item.1 item.2 _
    have hentities := reaches_mapM hstep hsupport (t.generator.entities tree)
    dsimp only at hentities ⊢
    generalize exec (List.mapM (entityStep t.generator tree paths) _) t = r at hentities ⊢
    obtain ⟨_ | more, u⟩ := r
    · exact hentities
    · exact hentities

theorem Generator.reaches_makings {g h : Generator} {ms : List Making}
    (hreach : g.Reaches ms h.start) (history : List (FileSystem × Tree)) :
    ∃ h', g.Reaches (ms ++ h.makings history) h' := by
  induction history generalizing h ms with
  | nil =>
    rw [makings, List.append_nil]
    exact ⟨_, hreach⟩
  | cons run rest ih =>
    obtain ⟨files, tree⟩ := run
    have hrun := Session.reaches_generateAll (s := ⟨h, files⟩) hreach tree
    obtain ⟨h', hrest⟩ := ih hrun.start
    rw [makings, ← List.append_assoc]
    exact ⟨h', hrest⟩

theorem Generator.reaches_before {g : Generator} {history : List (FileSystem × Tree)}
    {before after : List Making} {m : Making} (h : g.makings history = before ++ m :: after) :
    ∃ h' resolver, g.Reaches before h' ∧
      m.session.generator = { h'.nextFile with resolver } := by
  obtain ⟨_, hreach⟩ := reaches_makings .begin history
  rw [List.nil_append] at hreach
  exact hreach.split h

end SchemaForge
