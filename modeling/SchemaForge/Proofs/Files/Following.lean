import SchemaForge.Proofs.Files.Location

/-! Following paths. Where segments lead is told by a relation that counts no links and goes along
lists of segments; a path that can be followed is still followed to the same place once more
directories have come up. Without links it leads to the location that its text tells. -/

namespace SchemaForge.FileSystem

variable {fs fs' : FileSystem} {loc next found : Location} {segment : String}
  {segments more : List String}
  {jump jump' : Location → List String → Except IoKind Location}

def HasDirectory (fs : FileSystem) (loc : Location) : Prop :=
  ∃ mode, fs.node? loc = some (.directory mode)

section Entering

theorem enter_eq_ok (h : fs.enter loc segment = .ok next) :
    fs.HasDirectory loc ∧ next = Path.advance loc segment := by
  rw [enter] at h
  rw [Path.advance]
  split at h
  · cases h
  · cases h
  · rename_i mode hnode
    refine ⟨⟨mode, hnode⟩, ?_⟩
    split_ifs at h ⊢
    all_goals exact (Except.ok.inj h).symm

theorem enter_congr (h : fs.HasDirectory loc) (h' : fs'.HasDirectory loc) (segment : String) :
    fs'.enter loc segment = fs.enter loc segment := by
  obtain ⟨mode, hnode⟩ := h
  obtain ⟨mode', hnode'⟩ := h'
  rw [enter, enter, hnode, hnode']

theorem hasDirectory_nil (fs : FileSystem) : fs.HasDirectory [] :=
  ⟨directoryMode, rfl⟩

end Entering

section Walking

theorem walk_cons (h : fs.enter loc segment = .ok next)
    (hlink : ∀ target, fs.link? next ≠ some (.symbolic target)) :
    fs.walk jump loc (segment :: segments) = fs.walk jump (fs.standing next) segments := by
  rw [walk, h, standing]
  cases hfound : fs.link? next with
  | none => simp [bind, Except.bind, hfound]
  | some link =>
    cases link with
    | symbolic target => exact absurd hfound (hlink target)
    | further file => simp [bind, Except.bind, hfound]

theorem walk_cons_symbolic {target : Path} (h : fs.enter loc segment = .ok next)
    (hlink : fs.link? next = some (.symbolic target)) :
    fs.walk jump loc (segment :: segments) =
      jump (linkStart next target) (target.segments ++ segments) := by
  simp [walk, h, hlink, bind, Except.bind]

theorem exists_enter_of_walk (h : fs.walk jump loc (segment :: segments) = .ok found) :
    ∃ next, fs.enter loc segment = .ok next := by
  cases henter : fs.enter loc segment with
  | error kind =>
    rw [walk, henter] at h
    cases h
  | ok next => exact ⟨next, rfl⟩

end Walking

/-- Segments lead from a location to another, over any number of links. -/
inductive Leads (fs : FileSystem) : Location → List String → Location → Prop where
  | here (loc : Location) : fs.Leads loc [] loc
  | step {loc next found : Location} {segment : String} {rest : List String} :
    fs.enter loc segment = .ok next → (∀ target, fs.link? next ≠ some (.symbolic target)) →
    fs.Leads (fs.standing next) rest found → fs.Leads loc (segment :: rest) found
  | across {loc next between found : Location} {segment : String} {rest : List String}
    {target : Path} :
    fs.enter loc segment = .ok next → fs.link? next = some (.symbolic target) →
    fs.Leads (linkStart next target) target.segments between → fs.Leads between rest found →
    fs.Leads loc (segment :: rest) found

namespace Leads

theorem append {between : Location} (h : fs.Leads loc segments between)
    (h' : fs.Leads between more found) : fs.Leads loc (segments ++ more) found := by
  induction h with
  | here => exact h'
  | step henter hlink _ ih => exact .step henter hlink (ih h')
  | across henter hlink hacross _ _ ih => exact .across henter hlink hacross (ih h')

theorem of_append (h : fs.Leads loc (segments ++ more) found) :
    ∃ between, fs.Leads loc segments between ∧ fs.Leads between more found := by
  induction segments generalizing loc with
  | nil => exact ⟨loc, .here loc, h⟩
  | cons segment rest ih =>
    cases h with
    | step henter hlink h =>
      obtain ⟨between, hbefore, hafter⟩ := ih h
      exact ⟨between, .step henter hlink hbefore, hafter⟩
    | across henter hlink hacross h =>
      obtain ⟨between, hbefore, hafter⟩ := ih h
      exact ⟨between, .across henter hlink hacross hbefore, hafter⟩

theorem of_cons (h : fs.Leads loc (segment :: segments) found) :
    ∃ next, fs.enter loc segment = .ok next := by
  cases h with
  | step henter _ _ => exact ⟨_, henter⟩
  | across henter _ _ _ => exact ⟨_, henter⟩

theorem of_step (h : fs.Leads loc (segment :: segments) found)
    (henter : fs.enter loc segment = .ok next)
    (hlink : ∀ target, fs.link? next ≠ some (.symbolic target)) :
    fs.Leads (fs.standing next) segments found := by
  cases h with
  | step henter' _ h =>
    cases henter.symm.trans henter'
    exact h
  | across henter' hlink' _ _ =>
    cases henter.symm.trans henter'
    exact absurd hlink' (hlink _)

theorem of_across {target : Path} (h : fs.Leads loc (segment :: segments) found)
    (henter : fs.enter loc segment = .ok next) (hlink : fs.link? next = some (.symbolic target)) :
    fs.Leads (linkStart next target) (target.segments ++ segments) found := by
  cases h with
  | step henter' hlink' _ =>
    cases henter.symm.trans henter'
    exact absurd hlink (hlink' _)
  | across henter' hlink' hacross h =>
    cases henter.symm.trans henter'
    cases hlink.symm.trans hlink'
    exact hacross.append h

theorem of_walk
    (hjump : ∀ loc segments, jump loc segments = .ok found → fs.Leads loc segments found)
    (h : fs.walk jump loc segments = .ok found) : fs.Leads loc segments found := by
  induction segments generalizing loc with
  | nil =>
    cases h
    exact .here _
  | cons segment rest ih =>
    obtain ⟨next, henter⟩ := exists_enter_of_walk h
    by_cases hlink : ∃ target, fs.link? next = some (.symbolic target)
    · obtain ⟨target, hlink⟩ := hlink
      rw [walk_cons_symbolic henter hlink] at h
      obtain ⟨between, hacross, hrest⟩ := (hjump _ _ h).of_append
      exact .across henter hlink hacross hrest
    · rw [not_exists] at hlink
      rw [walk_cons henter hlink] at h
      exact .step henter hlink (ih h)

theorem of_follow {links : Nat} (h : fs.follow links loc segments = .ok found) :
    fs.Leads loc segments found := by
  induction links generalizing loc segments with
  | zero =>
    rw [follow] at h
    exact of_walk (by simp) h
  | succ links ih => exact of_walk (fun _ _ hjump => ih hjump) h

theorem hasDirectory {after : List String} (h : fs.Leads loc (segments ++ segment :: after) found) :
    ∃ between, fs.Leads loc segments between ∧ fs.HasDirectory between := by
  obtain ⟨between, hbefore, hafter⟩ := h.of_append
  obtain ⟨next, henter⟩ := hafter.of_cons
  exact ⟨between, hbefore, (enter_eq_ok henter).1⟩

end Leads

section Resolving

variable {p : Path}

theorem segments_ne_nil (p : Path) : p.segments ≠ [] := by
  simp [Path.segments, Text.splitAt_ne_nil]

theorem resolve_eq_ok : fs.resolve p = .ok found ↔
    checkText p = .ok () ∧ fs.follow linkLimit (fs.start p) p.segments = .ok found := by
  rw [resolve]
  cases checkText p with
  | error kind => simp [bind, Except.bind]
  | ok _ => simp [bind, Except.bind]

theorem leads_of_resolve (h : fs.resolve p = .ok found) :
    fs.Leads (fs.start p) p.segments found :=
  .of_follow (resolve_eq_ok.mp h).2

theorem place_eq_ok (h : fs.place p = .ok found) :
    ∃ directory segment, fs.enter directory segment = .ok found := by
  rw [place] at h
  cases htext : checkText p with
  | error kind =>
    rw [htext] at h
    cases h
  | ok _ =>
    rw [htext] at h
    cases hfollow : fs.follow linkLimit (fs.start p) p.segments.dropLast with
    | error kind =>
      simp only [bind, Except.bind, hfollow] at h
      cases h
    | ok directory =>
      simp only [bind, Except.bind, hfollow] at h
      exact ⟨directory, _, h⟩

theorem stat_eq_ok {node : FileNode} :
    fs.stat p = .ok (loc, node) ↔ fs.resolve p = .ok loc ∧ fs.node? loc = some node := by
  rw [stat]
  cases hresolve : fs.resolve p with
  | error kind => simp [bind, Except.bind]
  | ok found =>
    simp only [bind, Except.bind, Except.ok.injEq]
    cases hnode : fs.node? found with
    | none =>
      simp only [reduceCtorEq, false_iff, not_and]
      rintro rfl
      rw [hnode]
      exact nofun
    | some other =>
      simp only [Except.ok.injEq, Prod.mk.injEq]
      constructor
      · rintro ⟨rfl, rfl⟩
        exact ⟨rfl, hnode⟩
      · rintro ⟨rfl, h⟩
        rw [hnode] at h
        exact ⟨rfl, Option.some.inj h⟩

theorem follow_eq_of_noLinks (hlinks : fs.links = []) {links : Nat}
    (h : fs.follow links loc segments = .ok found) : found = segments.foldl Path.advance loc := by
  have hnone (loc : Location) : fs.link? loc = none := by rw [link?, hlinks, List.lookup_nil]
  have hleads := Leads.of_follow h
  clear h
  induction hleads with
  | here => rfl
  | step henter _ _ ih =>
    rw [List.foldl_cons, ← (enter_eq_ok henter).2, ih, standing, hnone]
  | across _ hlink _ _ =>
    rw [hnone] at hlink
    cases hlink

theorem resolve_eq_of_noLinks (hlinks : fs.links = []) (h : fs.resolve p = .ok found) :
    found = p.locate fs.cwd :=
  follow_eq_of_noLinks hlinks (resolve_eq_ok.mp h).2

def SamePlace (fs : FileSystem) (p q : Path) : Prop :=
  ∃ loc, fs.resolve p = .ok loc ∧ fs.resolve q = .ok loc

theorem SamePlace.locate {q : Path} (h : fs.SamePlace p q) (hlinks : fs.links = []) :
    p.locate fs.cwd = q.locate fs.cwd := by
  obtain ⟨loc, hp, hq⟩ := h
  exact (resolve_eq_of_noLinks hlinks hp).symm.trans (resolve_eq_of_noLinks hlinks hq)

end Resolving

structure KeepsWays (fs fs' : FileSystem) : Prop where
  cwd : fs'.cwd = fs.cwd
  links : fs'.links = fs.links
  directories : ∀ loc, fs.HasDirectory loc → fs'.HasDirectory loc

namespace KeepsWays

theorem refl (fs : FileSystem) : KeepsWays fs fs where
  cwd := rfl
  links := rfl
  directories _ h := h

theorem trans {fs'' : FileSystem} (h : KeepsWays fs fs') (h' : KeepsWays fs' fs'') :
    KeepsWays fs fs'' where
  cwd := h'.cwd.trans h.cwd
  links := h'.links.trans h.links
  directories loc hloc := h'.directories loc (h.directories loc hloc)

theorem link? (h : KeepsWays fs fs') (loc : Location) : fs'.link? loc = fs.link? loc := by
  rw [FileSystem.link?, FileSystem.link?, h.links]

theorem standing (h : KeepsWays fs fs') (loc : Location) : fs'.standing loc = fs.standing loc := by
  rw [FileSystem.standing, FileSystem.standing, h.link?]

theorem enter (h : KeepsWays fs fs') (henter : fs.enter loc segment = .ok next) :
    fs'.enter loc segment = .ok next := by
  have hdirectory := (enter_eq_ok henter).1
  rw [enter_congr hdirectory (h.directories loc hdirectory), henter]

theorem walk (h : KeepsWays fs fs')
    (hjump : ∀ loc segments, jump loc segments = .ok found → jump' loc segments = .ok found)
    (hwalk : fs.walk jump loc segments = .ok found) : fs'.walk jump' loc segments = .ok found := by
  induction segments generalizing loc with
  | nil => exact hwalk
  | cons segment rest ih =>
    obtain ⟨next, henter⟩ := exists_enter_of_walk hwalk
    by_cases hlink : ∃ target, fs.link? next = some (.symbolic target)
    · obtain ⟨target, hlink⟩ := hlink
      rw [walk_cons_symbolic henter hlink] at hwalk
      rw [walk_cons_symbolic (h.enter henter) ((h.link? next).trans hlink)]
      exact hjump _ _ hwalk
    · rw [not_exists] at hlink
      rw [walk_cons henter hlink] at hwalk
      rw [walk_cons (h.enter henter) (by rwa [h.link?]), h.standing]
      exact ih hwalk

theorem follow (h : KeepsWays fs fs') {links : Nat}
    (hfollow : fs.follow links loc segments = .ok found) :
    fs'.follow links loc segments = .ok found := by
  induction links generalizing loc segments with
  | zero =>
    rw [FileSystem.follow] at hfollow ⊢
    exact h.walk (by simp) hfollow
  | succ links ih => exact h.walk (fun _ _ hjump => ih hjump) hfollow

theorem start (h : KeepsWays fs fs') (p : Path) : fs'.start p = fs.start p := by
  rw [FileSystem.start, FileSystem.start, h.cwd]

theorem resolve (h : KeepsWays fs fs') {p : Path} (hresolve : fs.resolve p = .ok found) :
    fs'.resolve p = .ok found := by
  rw [resolve_eq_ok] at hresolve ⊢
  rw [h.start]
  exact ⟨hresolve.1, h.follow hresolve.2⟩

end KeepsWays

end SchemaForge.FileSystem
