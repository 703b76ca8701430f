import SchemaForge.Proofs.Files.Growth
import SchemaForge.Proofs.Generation.DryRun

/-! Runs that refuse to replace files. However such a run ends, all that stood before stands as it
was, and where it succeeds its paths lead to files that are all different and all new. -/

namespace SchemaForge

open FileSystem (Grows Adds)

theorem FileSystem.node?_append_self {fs : FileSystem} {loc : Location} {mode : Nat}
    {old : List UInt8} (h : fs.node? loc = some (.file mode old)) (bytes : List UInt8) :
    (fs.append loc bytes).node? loc = some (.file mode (old ++ bytes)) := by
  have hne : loc ≠ [] := ne_nil_of_not_hasDirectory (not_hasDirectory_of_file h)
  simp only [append, h, node?_set_self hne]

namespace Generate

variable {α : Type} {s t : Session} {paths more : List Path} {path : Path}

/-- A session of a run that writes but refuses existing files, with paths that it may write to. -/
structure Refusing (s : Session) (paths : List Path) : Prop where
  dryRun : s.generator.options.dryRun = false
  overwrite : s.generator.options.overwrite = false
  processors : s.generator.processors = []
  rooted : s.files.Rooted
  noDangling : s.files.NoDangling
  climbable : ∀ p ∈ paths, s.files.Climbable p

theorem Refusing.next (h : Refusing s paths) (hsetup : SameSetup s t)
    (hgrows : Grows s.files t.files) : Refusing t paths := by
  have hprocessors : t.generator.processors = s.generator.processors :=
    congrArg Generator.Setup.processors hsetup
  exact ⟨hsetup.options ▸ h.dryRun, hsetup.options ▸ h.overwrite, hprocessors.trans h.processors,
    hgrows.rooted h.rooted, hgrows.noDangling h.noDangling,
    fun p hp => hgrows.climbable (h.climbable p hp)⟩

theorem Refusing.subset (h : Refusing s paths) (hsubset : more ⊆ paths) : Refusing s more :=
  { h with climbable := fun p hp => h.climbable p (hsubset hp) }

/-- Files have been added at the paths of a result. After a failure nothing is said of paths. -/
def Added (fs : FileSystem) (paths : α → List Path) : Except GenerationError α × Session → Prop
  | (.ok a, t) => Adds fs t.files (paths a)
  | (.error _, t) => Grows fs t.files

theorem Added.grows {fs : FileSystem} {paths : α → List Path}
    {r : Except GenerationError α × Session} (h : Added fs paths r) : Grows fs r.2.files := by
  obtain ⟨_ | a, t⟩ := r
  · exact h
  · exact Adds.grows h

theorem added_write (h : Refusing s [path]) (template : TemplateRef) (data : Json) :
    Added s.files ([·]) (exec (write template data path) s) := by
  have hclimb := h.climbable path (List.mem_singleton.mpr rfl)
  obtain ⟨hcreate, hloc⟩ := FileSystem.createOutput_refusing h.rooted h.noDangling hclimb
  rw [exec_write, h.overwrite]
  generalize s.files.createOutput path false = created at hcreate hloc ⊢
  obtain ⟨_ | loc, files⟩ := created
  · exact hcreate
  dsimp only at hcreate hloc ⊢
  obtain ⟨hnone, hresolve, mode, hfile⟩ := hloc loc rfl
  obtain ⟨bytes, hbytes⟩ : ∃ bytes,
      (fill { s with files } loc template data path).2.files = files.append loc bytes := ⟨_, rfl⟩
  have hprocessors : (fill { s with files } loc template data path).2.generator.processors = [] :=
    h.processors
  -- What is written goes to the new file only.
  have hfilled := FileSystem.changesAt_append hresolve bytes
  have hplace := hfilled.resolve hresolve
  have hgrows : Grows s.files (files.append loc bytes) :=
    hcreate.trans_changesAt hnone hplace hfilled fun hrooted => hrooted.append loc bytes
  generalize fill { s with files } loc template data path = filled at hbytes hprocessors ⊢
  obtain ⟨_ | _, t⟩ := filled
  · dsimp only at hbytes ⊢
    rw [Added, hbytes]
    exact hgrows
  · dsimp only at hbytes hprocessors ⊢
    rw [hprocessors, FileProcessor.runAll, Added, hbytes]
    refine ⟨hgrows, List.nodup_singleton _, ?_⟩
    rw [List.forall_mem_singleton]
    exact ⟨loc, mode, bytes, hnone, FileSystem.stat_eq_ok.mpr
      ⟨hplace, FileSystem.node?_append_self hfile bytes⟩⟩

theorem added_supportFile {template : TemplateRef}
    (h : Refusing s [s.generator.supportPath template.stem]) :
    Added s.files ([·]) (exec (supportFile template) s) := by
  have hnext : Refusing { s with generator := s.generator.nextFile }
      [s.generator.supportPath template.stem] :=
    ⟨h.dryRun, h.overwrite, h.processors, h.rooted, h.noDangling, h.climbable⟩
  have hwritten := added_write hnext template
    (Data.forSupport s.generator.language s.generator.context template.stem)
  rw [exec_supportFile, h.dryRun, if_neg (by decide)]
  exact hwritten

theorem added_entity (h : Refusing s [path]) (tree : Tree) (e : Entity) (includes : List String) :
    Added s.files ([·]) (exec (entity tree e path includes) s) := by
  have hsetup := sameSetup_resolve e { s with generator := s.generator.nextFile }
  have hfiles := files_resolve e { s with generator := s.generator.nextFile }
  rw [exec_entity]
  generalize exec (resolve e) { s with generator := s.generator.nextFile } = resolved
    at hsetup hfiles ⊢
  obtain ⟨_ | template, t⟩ := resolved
  · dsimp only at hfiles ⊢
    rw [Added, hfiles]
    exact Grows.refl _
  · dsimp only at hsetup hfiles ⊢
    have hnext : Refusing t [path] := h.next hsetup (by rw [hfiles]; exact Grows.refl _)
    rw [hnext.dryRun, if_neg (by decide), ← hfiles]
    exact added_write hnext _ _

theorem added_mapM {f : α → Generate Path} {pathOf : α → Path} {items : List α}
    (hsetup : ∀ a, Moves SameSetup (f a))
    (hf : ∀ a t, SameSetup s t → Refusing t [pathOf a] → Added t.files ([·]) (exec (f a) t))
    (ht : SameSetup s t) (h : Refusing t (items.map pathOf)) :
    Added t.files id (exec (items.mapM f) t) := by
  induction items generalizing t with
  | nil => exact Adds.nil (Grows.refl _)
  | cons a rest ih =>
    have hfirst := hf a t ht (h.subset (by simp))
    have hmoves := hsetup a t
    rw [exec_mapM_cons]
    generalize exec (f a) t = r at hfirst hmoves ⊢
    obtain ⟨_ | p, u⟩ := r
    · exact hfirst
    · have hrest := ih (ht.trans _ _ _ hmoves) ((h.next hmoves hfirst.grows).subset (by simp))
      dsimp only at hrest ⊢
      generalize exec (rest.mapM f) u = more at hrest ⊢
      obtain ⟨_ | ps, v⟩ := more
      · exact (Adds.grows hfirst).trans hrest
      · exact Adds.append hfirst hrest

theorem added_support (h : Refusing s s.generator.supportOutputs) :
    Added s.files id (exec support s) := by
  rw [Generator.supportOutputs] at h
  rw [exec_support]
  split
  · exact Adds.nil (Grows.refl _)
  · rename_i homit
    rw [if_neg homit, ← Generator.map_supportTemplates _ s.files] at h
    refine added_mapM (s := s) sameSetup_supportFile ?_ (SameSetup.refl s) h
    intro template t hsetup ht
    rw [← hsetup.supportPath] at ht
    exact added_supportFile ht

theorem added_all {tree : Tree} (h : Refusing s (s.generator.outputs tree)) :
    Added s.files id (exec (all tree) s) := by
  rw [Generator.outputs] at h
  have hstart : Refusing { s with generator := s.generator.start } s.generator.supportOutputs :=
    ⟨h.dryRun, h.overwrite, h.processors, h.rooted, h.noDangling, (h.subset (by simp)).climbable⟩
  have hsupport := added_support hstart
  have hsetup : SameSetup s (exec support { s with generator := s.generator.start }).2 :=
    sameSetup_support { s with generator := s.generator.start }
  rw [exec_all]
  generalize exec support { s with generator := s.generator.start } = r at hsupport hsetup ⊢
  obtain ⟨_ | first, t⟩ := r
  · exact hsupport
  · dsimp only at hsetup ⊢
    have hnext : Refusing t ((t.generator.entities tree).map (·.2)) := by
      rw [hsetup.entities]
      exact (h.next hsetup hsupport.grows).subset (by simp)
    have hentities := added_mapM (s := t) (f := entityStep t.generator tree first)
      (fun item => sameSetup_entity tree item.1 item.2 _)
      (fun item u _ hu => added_entity hu tree item.1 _) (SameSetup.refl t) hnext
    generalize exec (List.mapM (entityStep t.generator tree first) _) t = r at hentities ⊢
    obtain ⟨_ | more, u⟩ := r
    · exact (Adds.grows hsupport).trans hentities
    · exact Adds.append hsupport hentities

end Generate

namespace Session

open Generate

/-- However a run ends that refuses existing files, all that stood before stands as it was, and all
paths that led to it still do. Where it succeeds in writing, its paths lead to different files, each
at a place where nothing stood before. -/
theorem refusing_run_keeps_files (s : Session) (tree : Tree)
    (hoverwrite : s.generator.options.overwrite = false) (hprocessors : s.generator.processors = [])
    (hrooted : s.files.Rooted) (hdangling : s.files.NoDangling)
    (hclimb : ∀ p ∈ s.generator.outputs tree, s.files.Climbable p) :
    (∀ loc node, s.files.node? loc = some node →
      (s.generateAll tree).2.files.node? loc = some node) ∧
    (∀ p found, s.files.stat p = .ok found → (s.generateAll tree).2.files.stat p = .ok found) ∧
    (s.generator.options.dryRun = false → ∀ paths, (s.generateAll tree).1 = .ok paths →
      (paths.map (s.generateAll tree).2.files.resolve).Nodup ∧
      ∀ p ∈ paths, ∃ loc mode bytes, s.files.node? loc = none ∧
        (s.generateAll tree).2.files.stat p = .ok (loc, .file mode bytes)) := by
  cases hdry : s.generator.options.dryRun with
  | true =>
    obtain ⟨t, hfiles, hrun⟩ := generateAll_dry hdry tree
    rw [hrun]
    refine ⟨fun loc node hnode => ?_, fun p found hstat => ?_, nofun⟩
    · rw [hfiles, hnode]
    · rw [hfiles, hstat]
  | false =>
    have hadded : Added s.files id (s.generateAll tree) :=
      added_all ⟨hdry, hoverwrite, hprocessors, hrooted, hdangling, hclimb⟩
    refine ⟨hadded.grows.nodes, fun p found => hadded.grows.stat, fun _ paths hpaths => ?_⟩
    generalize s.generateAll tree = r at hadded hpaths ⊢
    obtain ⟨result, t⟩ := r
    cases hpaths
    exact ⟨hadded.distinct, hadded.new⟩

/-- A file where one for the type `demo.Heartbeat` goes below `out`, and a link to the working
directory. -/
def refusingFiles : FileSystem where
  entries := sample.files.entries ++ [
    (["work", "out"], .directory 0o755),
    (["work", "out", "demo"], .directory 0o755),
    (["work", "out", "demo", "Heartbeat_1_0.h"], .file 0o644 [107])]
  links := [(["work", "own", "up"], .symbolic ⟨".."⟩)]

theorem rooted_refusingFiles : refusingFiles.Rooted := by
  refine FileSystem.rooted_of_lists (by decide +kernel) (by decide +kernel) ?_
  intro loc file hmem
  simp [refusingFiles] at hmem

theorem noDangling_refusingFiles : refusingFiles.NoDangling := by
  refine FileSystem.noDangling_of_lists fun loc target hmem => ?_
  simp only [refusingFiles, List.mem_singleton, Prod.mk.injEq, FileLink.symbolic.injEq] at hmem
  obtain ⟨rfl, rfl⟩ := hmem
  exact ⟨["work"], .directory 0o755, by decide +kernel, by decide +kernel⟩

def refusingSample (outputDir : Path) : Session where
  files := refusingFiles
  generator := { sample.generator with
    layout := { Tree.sampleLayout with outputDir }
    context := { sample.generator.context with omitSupport := true }
    options := { overwrite := false }
    processors := [] }

theorem refusing_run_keeps_files_sample :
    ∃ t, Tree.single ⟨"own/up/new"⟩ = .ok t ∧
      ((refusingSample ⟨"own/up/new"⟩).generateAll t).1 =
        .ok [⟨"own/up/new/demo/Heartbeat_1_0.h"⟩] ∧
      ((refusingSample ⟨"own/up/new"⟩).generateAll t).2.files.stat
        ⟨"own/up/out/demo/Heartbeat_1_0.h"⟩ =
          .ok (["work", "out", "demo", "Heartbeat_1_0.h"], .file 0o644 [107]) ∧
      ∃ loc mode bytes, (refusingSample ⟨"own/up/new"⟩).files.node? loc = none ∧
        ((refusingSample ⟨"own/up/new"⟩).generateAll t).2.files.stat
          ⟨"own/up/new/demo/Heartbeat_1_0.h"⟩ = .ok (loc, .file mode bytes) := by
  obtain ⟨t, hbuild, hfacts⟩ := exists_of_map_eq_ok (show
    (Tree.single ⟨"own/up/new"⟩).map (fun t =>
      (decide (∀ p ∈ (refusingSample ⟨"own/up/new"⟩).generator.outputs t,
          (refusingSample ⟨"own/up/new"⟩).files.Climbable p),
        ((refusingSample ⟨"own/up/new"⟩).generateAll t).1)) =
      .ok (true, .ok [⟨"own/up/new/demo/Heartbeat_1_0.h"⟩])
    by decide +kernel)
  simp only [Prod.mk.injEq, decide_eq_true_eq] at hfacts
  obtain ⟨hclimb, hrun⟩ := hfacts
  obtain ⟨-, hkept, hnew⟩ := refusing_run_keeps_files _ t rfl rfl
    rooted_refusingFiles noDangling_refusingFiles hclimb
  exact ⟨t, hbuild, hrun, hkept _ _ (by decide +kernel),
    (hnew rfl _ hrun).2 _ (List.mem_singleton.mpr rfl)⟩

/-- A run that climbs out of a directory it has made replaces an existing file. -/
theorem refusing_run_replaces_file :
    ∃ t, Tree.single ⟨"new/../out"⟩ = .ok t ∧
      (refusingSample ⟨"new/../out"⟩).files.Rooted ∧ (refusingSample ⟨"new/../out"⟩).files.NoDangling ∧
      (refusingSample ⟨"new/../out"⟩).files.node?
        ["work", "out", "demo", "Heartbeat_1_0.h"] = some (.file 0o644 [107]) ∧
      ((refusingSample ⟨"new/../out"⟩).generateAll t).2.files.node?
        ["work", "out", "demo", "Heartbeat_1_0.h"] = some (.file 0o644 [35, 10]) := by
  obtain ⟨t, hbuild, hrun⟩ := exists_of_map_eq_ok (show
    (Tree.single ⟨"new/../out"⟩).map (fun t =>
      ((refusingSample ⟨"new/../out"⟩).generateAll t).2.files.node?
        ["work", "out", "demo", "Heartbeat_1_0.h"]) =
      .ok (some (.file 0o644 [35, 10]))
    by decide +kernel)
  exact ⟨t, hbuild, rooted_refusingFiles, noDangling_refusingFiles, by decide +kernel, hrun⟩

end Session

end SchemaForge
