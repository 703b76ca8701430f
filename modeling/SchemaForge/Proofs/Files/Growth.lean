import SchemaForge.Proofs.Files.Frame

/-! File systems that only grow. Where existing files are refused, getting a file ready leaves all
that stands as it is and the file comes up where nothing stood. This rests on paths that leave no
directory but those that exist: a directory that is made on the way may have an existing file next
to it, and a path that climbs out of it again leads to that file although it led nowhere before. -/

namespace SchemaForge.FileSystem

/-- Every name stands in a directory, and none is both a link and something else. -/
structure Rooted (fs : FileSystem) : Prop where
  nodes : ∀ loc node, loc ≠ [] → fs.node? loc = some node → fs.HasDirectory loc.dropLast
  links : ∀ loc link, fs.link? loc = some link →
    loc ≠ [] ∧ fs.node? loc = none ∧ fs.HasDirectory loc.dropLast
  further : ∀ loc file, fs.link? loc = some (.further file) →
    ∃ mode bytes, fs.node? file = some (.file mode bytes)

def NoDangling (fs : FileSystem) : Prop :=
  ∀ loc target, fs.link? loc = some (.symbolic target) →
    ∃ found node, fs.follow linkLimit (linkStart loc target) target.segments = .ok found ∧
      fs.node? found = some node

def LeadsToDirectory (fs : FileSystem) (start : Location) (segments : List String) : Prop :=
  ∃ loc, fs.follow linkLimit start segments = .ok loc ∧ fs.HasDirectory loc

/-- Wherever a path climbs to the directory above, the segments before lead to an existing
directory. -/
def Climbable (fs : FileSystem) (p : Path) : Prop :=
  ∀ before after, p.segments = before ++ ".." :: after → fs.LeadsToDirectory (fs.start p) before

section Decisions

variable {fs : FileSystem}

instance (fs : FileSystem) (loc : Location) : Decidable (fs.HasDirectory loc) :=
  match h : fs.node? loc with
  | some (.directory mode) => .isTrue ⟨mode, h⟩
  | some (.file _ _) => .isFalse fun ⟨_, hmode⟩ => nomatch h.symm.trans hmode
  | none => .isFalse fun ⟨_, hmode⟩ => nomatch h.symm.trans hmode

instance (fs : FileSystem) (start : Location) (segments : List String) :
    Decidable (fs.LeadsToDirectory start segments) :=
  match h : fs.follow linkLimit start segments with
  | .ok loc => decidable_of_iff (fs.HasDirectory loc)
      ⟨fun hloc => ⟨loc, h, hloc⟩, fun ⟨_, hother, hloc⟩ => Except.ok.inj (h.symm.trans hother) ▸ hloc⟩
  | .error _ => .isFalse fun ⟨_, hother, _⟩ => nomatch h.symm.trans hother

theorem rooted_of_lists
    (hnodes : ∀ entry ∈ fs.entries, entry.1 ≠ [] → fs.HasDirectory entry.1.dropLast)
    (hlinks : ∀ entry ∈ fs.links,
      entry.1 ≠ [] ∧ fs.node? entry.1 = none ∧ fs.HasDirectory entry.1.dropLast)
    (hfurther : ∀ loc file, (loc, .further file) ∈ fs.links →
      ∃ mode bytes, fs.node? file = some (.file mode bytes)) :
    fs.Rooted where
  nodes loc node hne hnode := by
    rw [node?, if_neg hne, List.lookup_eq_some_iff] at hnode
    obtain ⟨before, after, hentries, -⟩ := hnode
    exact hnodes (loc, node) (by simp [hentries]) hne
  links loc link hlink := by
    rw [link?, List.lookup_eq_some_iff] at hlink
    obtain ⟨before, after, hentries, -⟩ := hlink
    exact hlinks (loc, link) (by simp [hentries])
  further loc file hlink := by
    rw [link?, List.lookup_eq_some_iff] at hlink
    obtain ⟨before, after, hentries, -⟩ := hlink
    exact hfurther loc file (by simp [hentries])

theorem noDangling_of_lists (h : ∀ loc target, (loc, .symbolic target) ∈ fs.links →
    ∃ found node, fs.follow linkLimit (linkStart loc target) target.segments = .ok found ∧
      fs.node? found = some node) : fs.NoDangling := by
  intro loc target hlink
  rw [link?, List.lookup_eq_some_iff] at hlink
  obtain ⟨before, after, hentries, -⟩ := hlink
  exact h loc target (by simp [hentries])

theorem climbable_iff {p : Path} :
    fs.Climbable p ↔ ∀ i < p.segments.length, p.segments[i]? = some ".." →
      fs.LeadsToDirectory (fs.start p) (p.segments.take i) := by
  constructor
  · intro h i hi hsegment
    apply h (p.segments.take i) (p.segments.drop (i + 1))
    rw [List.getElem?_eq_getElem hi, Option.some.injEq] at hsegment
    rw [← hsegment, ← List.drop_eq_getElem_cons hi, List.take_append_drop]
  · intro h before after hsegments
    have hbefore := h before.length
    rw [hsegments] at hbefore
    simpa using hbefore

instance (fs : FileSystem) (p : Path) : Decidable (fs.Climbable p) :=
  decidable_of_iff _ climbable_iff.symm

end Decisions

section Rooted

variable {fs : FileSystem} {loc found : Location} {segments : List String}

theorem ne_nil_of_not_hasDirectory (h : ¬ fs.HasDirectory loc) : loc ≠ [] := by
  rintro rfl
  exact h (hasDirectory_nil fs)

theorem not_hasDirectory_of_file {mode : Nat} {bytes : List UInt8}
    (h : fs.node? loc = some (.file mode bytes)) : ¬ fs.HasDirectory loc := by
  simp [HasDirectory, h]

theorem not_hasDirectory_of_none (h : fs.node? loc = none) : ¬ fs.HasDirectory loc := by
  simp [HasDirectory, h]

/-- A node that is no link may be put into a directory, in place of a file or of nothing. Further
names stay names of files if that is what it is or nothing stood there. -/
theorem Rooted.set (h : fs.Rooted) (hparent : fs.HasDirectory loc.dropLast)
    (hnode : ¬ fs.HasDirectory loc) (hlink : fs.link? loc = none) {node : FileNode}
    (hfile : fs.node? loc = none ∨ ∃ mode bytes, node = .file mode bytes) :
    (fs.set loc node).Rooted := by
  have hkeeps : KeepsWays fs (fs.set loc node) :=
    keepsWays_set fun mode hmode => absurd ⟨mode, hmode⟩ hnode
  refine ⟨?_, ?_, ?_⟩
  · intro other found hother hfound
    apply hkeeps.directories
    by_cases heq : other = loc
    · exact heq ▸ hparent
    · rw [node?_set_of_ne fs node heq] at hfound
      exact h.nodes other found hother hfound
  · intro other link hother
    rw [hkeeps.link?] at hother
    obtain ⟨hne, hnone, hdirectory⟩ := h.links other link hother
    refine ⟨hne, ?_, hkeeps.directories _ hdirectory⟩
    rw [node?_set_of_ne, hnone]
    rintro rfl
    rw [hlink] at hother
    cases hother
  · intro other file hother
    rw [hkeeps.link?] at hother
    obtain ⟨mode, bytes, hfound⟩ := h.further other file hother
    by_cases heq : file = loc
    · subst heq
      rcases hfile with hnone | ⟨mode, bytes, rfl⟩
      · rw [hnone] at hfound
        cases hfound
      · exact ⟨mode, bytes, node?_set_self (ne_nil_of_not_hasDirectory hnode)⟩
    · exact ⟨mode, bytes, by rw [node?_set_of_ne fs node heq, hfound]⟩

theorem Rooted.node?_append (h : fs.Rooted) (hnone : fs.node? loc = none) (more : List String) :
    fs.node? (loc ++ more) = none := by
  induction more using List.reverseRecOn with
  | nil => rw [List.append_nil, hnone]
  | append_singleton before last ih =>
    rw [Option.eq_none_iff_forall_ne_some]
    intro node hnode
    rw [← List.append_assoc] at hnode
    obtain ⟨mode, hparent⟩ := h.nodes _ node (by simp) hnode
    rw [List.dropLast_concat, ih] at hparent
    cases hparent

/-- One segment leads from a directory to itself, to the one above or to a place in it. -/
theorem Rooted.directory_of_enter (h : fs.Rooted) {segment : String}
    (henter : fs.enter loc segment = .ok found) :
    fs.HasDirectory found ∨ fs.HasDirectory found.dropLast := by
  obtain ⟨hdirectory, rfl⟩ := enter_eq_ok henter
  rw [Path.advance]
  split_ifs
  · exact Or.inl hdirectory
  · by_cases hroot : loc = []
    · subst hroot
      exact Or.inl hdirectory
    · obtain ⟨mode, hnode⟩ := hdirectory
      exact Or.inl (h.nodes loc _ hroot hnode)
  · rw [List.dropLast_concat]
    exact Or.inr hdirectory

theorem Rooted.standing (h : fs.Rooted) (hlink : ∀ target, fs.link? loc ≠ some (.symbolic target))
    (hplace : fs.HasDirectory loc ∨ fs.HasDirectory loc.dropLast) :
    (fs.HasDirectory (fs.standing loc) ∨ fs.HasDirectory (fs.standing loc).dropLast) ∧
      fs.link? (fs.standing loc) = none := by
  rw [FileSystem.standing]
  cases hfound : fs.link? loc with
  | none => exact ⟨hplace, hfound⟩
  | some link =>
    cases link with
    | symbolic target => exact absurd hfound (hlink target)
    | further file =>
      obtain ⟨mode, bytes, hfile⟩ := h.further loc file hfound
      have hne := ne_nil_of_not_hasDirectory (not_hasDirectory_of_file hfile)
      refine ⟨Or.inr (h.nodes file _ hne hfile), ?_⟩
      rw [Option.eq_none_iff_forall_ne_some]
      intro link hlink
      rw [(h.links file link hlink).2.1] at hfile
      cases hfile

/-- Where segments lead there is a directory, or a place in one, and no link. -/
theorem Rooted.directory_of_leads (h : fs.Rooted) (hne : segments ≠ [])
    (hleads : fs.Leads loc segments found) :
    (fs.HasDirectory found ∨ fs.HasDirectory found.dropLast) ∧ fs.link? found = none := by
  induction hleads with
  | here => exact absurd rfl hne
  | @step _ _ _ _ rest henter hlink hrest ih =>
    cases rest with
    | nil =>
      cases hrest
      exact h.standing hlink (h.directory_of_enter henter)
    | cons => exact ih (List.cons_ne_nil _ _)
  | @across _ _ _ _ _ rest target _ _ _ hrest ihover ih =>
    cases rest with
    | nil =>
      cases hrest
      exact ihover (segments_ne_nil target)
    | cons => exact ih (List.cons_ne_nil _ _)

theorem Rooted.place_of_resolve (h : fs.Rooted) {p : Path} (hresolve : fs.resolve p = .ok loc)
    (hnode : ¬ fs.HasDirectory loc) : fs.HasDirectory loc.dropLast ∧ fs.link? loc = none := by
  obtain ⟨hplace, hlink⟩ := h.directory_of_leads (segments_ne_nil p) (leads_of_resolve hresolve)
  exact ⟨hplace.resolve_left hnode, hlink⟩

end Rooted

/-- All nodes have stayed what they were. New ones may have come up, each in a directory. -/
structure Grows (fs fs' : FileSystem) : Prop where
  cwd : fs'.cwd = fs.cwd
  links : fs'.links = fs.links
  nodes : ∀ loc node, fs.node? loc = some node → fs'.node? loc = some node
  rooted : fs.Rooted → fs'.Rooted

namespace Grows

variable {fs fs' fs'' : FileSystem} {loc : Location} {p : Path}

theorem refl (fs : FileSystem) : Grows fs fs where
  cwd := rfl
  links := rfl
  nodes _ _ h := h
  rooted h := h

theorem trans (h : Grows fs fs') (h' : Grows fs' fs'') : Grows fs fs'' where
  cwd := h'.cwd.trans h.cwd
  links := h'.links.trans h.links
  nodes loc node hnode := h'.nodes loc node (h.nodes loc node hnode)
  rooted hrooted := h'.rooted (h.rooted hrooted)

theorem keepsWays (h : Grows fs fs') : KeepsWays fs fs' where
  cwd := h.cwd
  links := h.links
  directories loc := fun ⟨mode, hmode⟩ => ⟨mode, h.nodes loc _ hmode⟩

theorem stat (h : Grows fs fs') {found : Location × FileNode} (hstat : fs.stat p = .ok found) :
    fs'.stat p = .ok found := by
  rw [stat_eq_ok] at hstat ⊢
  exact ⟨h.keepsWays.resolve hstat.1, h.nodes _ _ hstat.2⟩

theorem trans_changesAt (h : Grows fs fs') (hnone : fs.node? loc = none)
    (hplace : fs''.resolve p = .ok loc) (h' : ChangesAt p fs' fs'')
    (hrooted : fs'.Rooted → fs''.Rooted) : Grows fs fs'' where
  cwd := h'.cwd.trans h.cwd
  links := h'.links.trans h.links
  nodes other node hnode := by
    refine h'.elsewhere other node ?_ (h.nodes other node hnode)
    rintro hother
    cases hplace.symm.trans hother
    rw [hnone] at hnode
    cases hnode
  rooted hstart := hrooted (h.rooted hstart)

theorem node?_eq_none (h : Grows fs fs') (hnone : fs'.node? loc = none) : fs.node? loc = none := by
  rw [Option.eq_none_iff_forall_ne_some]
  intro node hnode
  rw [h.nodes loc node hnode] at hnone
  cases hnone

theorem climbable (h : Grows fs fs') (hp : fs.Climbable p) : fs'.Climbable p := by
  intro before after hsegments
  obtain ⟨loc, hfollow, hdirectory⟩ := hp before after hsegments
  rw [h.keepsWays.start]
  exact ⟨loc, h.keepsWays.follow hfollow, h.keepsWays.directories loc hdirectory⟩

theorem noDangling (h : Grows fs fs') (hp : fs.NoDangling) : fs'.NoDangling := by
  intro loc target hlink
  rw [h.keepsWays.link?] at hlink
  obtain ⟨found, node, hfollow, hnode⟩ := hp loc target hlink
  exact ⟨found, node, h.keepsWays.follow hfollow, h.nodes found node hnode⟩

theorem makeDirectory (h : fs.makeDirectory p = .ok fs') : Grows fs fs' := by
  obtain ⟨loc, hplace, htaken, rfl⟩ := makeDirectory_eq_ok h
  obtain ⟨hnone, hlink⟩ := isTaken_eq_false.mp htaken
  obtain ⟨directory, segment, henter⟩ := place_eq_ok hplace
  have hnode := not_hasDirectory_of_none hnone
  refine ⟨rfl, rfl, fun other node hother => ?_, fun hrooted => ?_⟩
  · rw [node?_set_of_ne, hother]
    rintro rfl
    rw [hnone] at hother
    cases hother
  · exact hrooted.set ((hrooted.directory_of_enter henter).resolve_left hnode) hnode hlink
      (Or.inl hnone)

theorem makeParents (fs : FileSystem) (p : Path) : Grows fs (fs.makeParents p).2 :=
  rel_makeParents refl (fun _ _ _ => trans) (fun _ _ _ => makeDirectory) fs p

end Grows

section Climbing

variable {fs fs' : FileSystem} {start loc : Location} {segments : List String}
  {jump jump' : Location → List String → Except IoKind Location}

/-- Wherever segments go up, those before lead to a directory. -/
def Climbs (fs : FileSystem) (start : Location) (segments : List String) : Prop :=
  ∀ before after, segments = before ++ ".." :: after →
    ∃ loc, fs.Leads start before loc ∧ fs.HasDirectory loc

theorem Climbs.of_leads (h : fs.Leads start segments loc) : fs.Climbs start segments := by
  intro before after hsegments
  exact (hsegments ▸ h).hasDirectory

theorem Climbs.append {more : List String} (h : fs.Climbs start segments)
    (hmore : ∀ before after, more = before ++ ".." :: after →
      ∃ loc, fs.Leads start (segments ++ before) loc ∧ fs.HasDirectory loc) :
    fs.Climbs start (segments ++ more) := by
  intro before after heq
  rw [List.append_eq_append_iff] at heq
  rcases heq with ⟨between, rfl, hmore'⟩ | ⟨between, rfl, hrest⟩
  · exact hmore between after hmore'
  · cases between with
    | nil => simpa using hmore [] after (by simpa using hrest.symm)
    | cons first others =>
      cases hrest
      exact h before others rfl

theorem Climbable.climbs {p : Path} (h : fs.Climbable p) : fs.Climbs (fs.start p) p.segments := by
  intro before after hsegments
  obtain ⟨loc, hfollow, hdirectory⟩ := h before after hsegments
  exact ⟨loc, .of_follow hfollow, hdirectory⟩

/-- From a directory that is new, segments that never go up lead to where nothing stood. -/
theorem node?_of_walk_new (hrooted : fs.Rooted) (hgrows : Grows fs fs')
    (hup : ".." ∉ segments) (hnone : fs.node? start = none)
    (hwalk : fs'.walk jump' start segments = .ok loc) : fs.node? loc = none := by
  induction segments generalizing start with
  | nil =>
    cases hwalk
    exact hnone
  | cons segment rest ih =>
    rw [List.mem_cons, not_or] at hup
    obtain ⟨next, henter⟩ := exists_enter_of_walk hwalk
    obtain ⟨⟨mode, hdirectory⟩, hnext⟩ := enter_eq_ok henter
    -- No link stood in a directory that was not there.
    have hlink : fs.link? next = none := by
      rw [Option.eq_none_iff_forall_ne_some]
      intro link hlink
      rw [Path.advance, if_neg (Ne.symm hup.1)] at hnext
      split_ifs at hnext
      · rw [hnext, ← hgrows.keepsWays.link?] at hlink
        rw [((hgrows.rooted hrooted).links _ _ hlink).2.1] at hdirectory
        cases hdirectory
      · rw [hnext] at hlink
        have hparent := (hrooted.links _ _ hlink).2.2
        rw [List.dropLast_concat] at hparent
        exact not_hasDirectory_of_none hnone hparent
    have hstanding : fs'.standing next = next := by
      rw [hgrows.keepsWays.standing, standing, hlink]
    rw [walk_cons henter (by simp [hgrows.keepsWays.link?, hlink]), hstanding] at hwalk
    refine ih hup.2 ?_ hwalk
    rw [hnext, Path.advance, if_neg (Ne.symm hup.1)]
    split_ifs
    · exact hnone
    · exact hrooted.node?_append hnone [segment]

/-- Segments that climb out of existing directories only lead, once others have been made, to where
they led before or to where nothing stood. -/
theorem walk_of_grows (hrooted : fs.Rooted) (hdangling : fs.NoDangling) (hgrows : Grows fs fs')
    (hjump : ∀ start segments, fs.Climbs start segments → jump' start segments = .ok loc →
      jump start segments = .ok loc ∨ fs.node? loc = none)
    (hclimbs : fs.Climbs start segments) (hwalk : fs'.walk jump' start segments = .ok loc) :
    fs.walk jump start segments = .ok loc ∨ fs.node? loc = none := by
  induction segments generalizing start with
  | nil => exact Or.inl hwalk
  | cons segment rest ih =>
    obtain ⟨next, henter'⟩ := exists_enter_of_walk hwalk
    have hdirectory' := (enter_eq_ok henter').1
    by_cases hdirectory : fs.HasDirectory start
    · have henter : fs.enter start segment = .ok next := by
        rw [← enter_congr hdirectory hdirectory', henter']
      by_cases hlink : ∃ target, fs.link? next = some (.symbolic target)
      · obtain ⟨target, hlink⟩ := hlink
        rw [walk_cons_symbolic henter' ((hgrows.keepsWays.link? next).trans hlink)] at hwalk
        rw [walk_cons_symbolic henter hlink]
        refine hjump _ _ ?_ hwalk
        -- The target of a link can be followed, so it climbs out of directories only.
        obtain ⟨found, node, htarget, hnode⟩ := hdangling next target hlink
        refine (Climbs.of_leads (.of_follow htarget)).append fun before after hrest => ?_
        obtain ⟨between, hleads, hbetween⟩ := hclimbs (segment :: before) after (by simp [hrest])
        exact ⟨between, hleads.of_across henter hlink, hbetween⟩
      · rw [not_exists] at hlink
        rw [walk_cons henter' (by rwa [hgrows.keepsWays.link?]), hgrows.keepsWays.standing] at hwalk
        rw [walk_cons henter hlink]
        refine ih ?_ hwalk
        intro before after hrest
        obtain ⟨between, hleads, hbetween⟩ := hclimbs (segment :: before) after (by simp [hrest])
        exact ⟨between, hleads.of_step henter hlink, hbetween⟩
    · -- The way leads through a new directory, and there is no climbing from there on.
      have hnone : fs.node? start = none := by
        rw [Option.eq_none_iff_forall_ne_some]
        intro node hnode
        obtain ⟨mode, hmode⟩ := hdirectory'
        rw [hgrows.nodes start node hnode] at hmode
        exact hdirectory ⟨mode, hnode.trans hmode⟩
      have hup : ".." ∉ segment :: rest := by
        intro hmem
        obtain ⟨before, after, hsegments⟩ := List.append_of_mem hmem
        obtain ⟨found, hleads, hfound⟩ := hclimbs before after hsegments
        cases before with
        | nil =>
          cases hleads
          exact hdirectory hfound
        | cons first others =>
          obtain ⟨next, henter⟩ := hleads.of_cons
          exact hdirectory (enter_eq_ok henter).1
      exact Or.inr (node?_of_walk_new hrooted hgrows hup hnone hwalk)

theorem follow_of_grows (hrooted : fs.Rooted) (hdangling : fs.NoDangling) (hgrows : Grows fs fs')
    {links : Nat} (hclimbs : fs.Climbs start segments)
    (hfollow : fs'.follow links start segments = .ok loc) :
    fs.follow links start segments = .ok loc ∨ fs.node? loc = none := by
  induction links generalizing start segments with
  | zero =>
    rw [follow] at hfollow ⊢
    exact walk_of_grows hrooted hdangling hgrows (by simp) hclimbs hfollow
  | succ links ih =>
    exact walk_of_grows hrooted hdangling hgrows (fun _ _ => ih) hclimbs hfollow

theorem resolve_of_grows (hrooted : fs.Rooted) (hdangling : fs.NoDangling) (hgrows : Grows fs fs')
    {p : Path} (hclimb : fs.Climbable p) (hresolve : fs'.resolve p = .ok loc) :
    fs.resolve p = .ok loc ∨ fs.node? loc = none := by
  rw [resolve_eq_ok, hgrows.keepsWays.start] at hresolve
  rw [resolve_eq_ok]
  rcases follow_of_grows hrooted hdangling hgrows hclimb.climbs hresolve.2 with hsame | hnone
  · exact Or.inl ⟨hresolve.1, hsame⟩
  · exact Or.inr hnone

end Climbing

section Refusing

variable {fs : FileSystem} {p : Path}

/-- Where existing files are refused, a file is made only where nothing stood. -/
theorem createOutput_refusing (hrooted : fs.Rooted) (hdangling : fs.NoDangling)
    (hclimb : fs.Climbable p) :
    Grows fs (fs.createOutput p false).2 ∧
      ∀ loc, (fs.createOutput p false).1 = .ok loc → fs.node? loc = none ∧
        (fs.createOutput p false).2.resolve p = .ok loc ∧
        ∃ mode, (fs.createOutput p false).2.node? loc = some (.file mode []) := by
  rw [createOutput, prepare]
  by_cases hexists : fs.pathExists p = true
  · rw [if_pos hexists]
    exact ⟨Grows.refl fs, fun loc hloc => by cases hloc⟩
  rw [if_neg hexists]
  have hparents := Grows.makeParents fs p
  generalize fs.makeParents p = prepared at hparents ⊢
  obtain ⟨_ | _, fs'⟩ := prepared
  · exact ⟨hparents, fun loc hloc => by cases hloc⟩
  dsimp only at hparents ⊢
  cases hcreate : fs'.createFile p with
  | error kind => exact ⟨hparents, fun loc hloc => by cases hloc⟩
  | ok created =>
    obtain ⟨loc, files⟩ := created
    obtain ⟨hchange, hplace⟩ := changesAt_createFile hcreate
    obtain ⟨hresolve, hnode, mode, rfl⟩ := createFile_eq_ok hcreate
    have hnone : fs.node? loc = none := by
      rcases resolve_of_grows hrooted hdangling hparents hclimb hresolve with hbefore | hnone
      · rw [Option.eq_none_iff_forall_ne_some]
        intro node hfound
        apply hexists
        rw [pathExists, stat_eq_ok.mpr ⟨hbefore, hfound⟩]
        rfl
      · exact hnone
    have hdirectory : ¬ fs'.HasDirectory loc := by
      rintro ⟨mode, hmode⟩
      exact hnode mode hmode
    have hgrows : Grows fs (fs'.set loc (.file mode [])) := by
      refine hparents.trans_changesAt hnone hplace hchange fun h => ?_
      obtain ⟨hparent, hlink⟩ := h.place_of_resolve hresolve hdirectory
      exact h.set hparent hdirectory hlink (Or.inr ⟨mode, [], rfl⟩)
    refine ⟨hgrows, fun found hfound => ?_⟩
    cases hfound
    exact ⟨hnone, hplace, mode, node?_set_self (ne_nil_of_not_hasDirectory hdirectory)⟩

theorem Rooted.append (h : fs.Rooted) (loc : Location) (bytes : List UInt8) :
    (fs.append loc bytes).Rooted := by
  rw [FileSystem.append]
  split
  · rename_i mode old hfile
    have hnode := not_hasDirectory_of_file hfile
    refine h.set (h.nodes loc _ (ne_nil_of_not_hasDirectory hnode) hfile) hnode ?_
      (Or.inr ⟨mode, old ++ bytes, rfl⟩)
    rw [Option.eq_none_iff_forall_ne_some]
    intro link hlink
    rw [(h.links loc link hlink).2.1] at hfile
    cases hfile
  · exact h

end Refusing

def IsNew (fs fs' : FileSystem) (p : Path) : Prop :=
  ∃ loc mode bytes, fs.node? loc = none ∧ fs'.stat p = .ok (loc, .file mode bytes)

/-- The file system has grown by files at the given paths, each at a location of its own. -/
structure Adds (fs fs' : FileSystem) (paths : List Path) : Prop where
  grows : Grows fs fs'
  distinct : (paths.map fs'.resolve).Nodup
  new : ∀ p ∈ paths, IsNew fs fs' p

namespace Adds

variable {fs fs' fs'' : FileSystem} {paths more : List Path}

theorem nil (h : Grows fs fs') : Adds fs fs' [] where
  grows := h
  distinct := List.nodup_nil
  new _ hp := nomatch hp

theorem resolve_eq (h : Adds fs fs' paths) (h' : Grows fs' fs'') :
    ∀ p ∈ paths, fs''.resolve p = fs'.resolve p := by
  intro p hp
  obtain ⟨loc, mode, bytes, -, hstat⟩ := h.new p hp
  have hresolve := (stat_eq_ok.mp hstat).1
  rw [hresolve, h'.keepsWays.resolve hresolve]

theorem append (h : Adds fs fs' paths) (h' : Adds fs' fs'' more) : Adds fs fs'' (paths ++ more) where
  grows := h.grows.trans h'.grows
  distinct := by
    rw [List.map_append, List.map_congr_left (h.resolve_eq h'.grows), List.nodup_append]
    refine ⟨h.distinct, h'.distinct, ?_⟩
    intro found hfound other hother heq
    subst heq
    obtain ⟨p, hp, rfl⟩ := List.mem_map.mp hfound
    obtain ⟨q, hq, hplace⟩ := List.mem_map.mp hother
    obtain ⟨loc, mode, bytes, -, hstat⟩ := h.new p hp
    obtain ⟨loc', mode', bytes', hnone, hstat'⟩ := h'.new q hq
    rw [stat_eq_ok] at hstat hstat'
    -- The later file is made where nothing stood, and here the earlier one stands.
    rw [hstat.1, hstat'.1] at hplace
    cases hplace
    rw [hstat.2] at hnone
    cases hnone
  new := by
    rw [List.forall_mem_append]
    refine ⟨fun p hp => ?_, fun p hp => ?_⟩
    · obtain ⟨loc, mode, bytes, hnone, hstat⟩ := h.new p hp
      exact ⟨loc, mode, bytes, hnone, h'.grows.stat hstat⟩
    · obtain ⟨loc, mode, bytes, hnone, hstat⟩ := h'.new p hp
      exact ⟨loc, mode, bytes, h.grows.node?_eq_none hnone, hstat⟩

end Adds

end SchemaForge.FileSystem
