import SchemaForge.Output.Destination
import SchemaForge.Proofs.Files.Following

/-! What steps on a file system leave alone. Getting a file ready at a path changes no more than
what stands where the path leads: all else stays, and new directories come up only where nothing
stood. -/

namespace SchemaForge.FileSystem

section Setting

variable {fs : FileSystem} {loc : Location} {node : FileNode}

theorem node?_set_self (h : loc ≠ []) : (fs.set loc node).node? loc = some node := by
  rw [node?, if_neg h, set, lookup_setEntries_self]

theorem keepsWays_set
    (h : ∀ mode, fs.node? loc = some (.directory mode) → ∃ mode', node = .directory mode') :
    KeepsWays fs (fs.set loc node) where
  cwd := rfl
  links := rfl
  directories other hother := by
    by_cases hroot : other = []
    · rw [hroot]
      exact hasDirectory_nil _
    · obtain ⟨mode, hmode⟩ := hother
      by_cases heq : other = loc
      · subst heq
        obtain ⟨mode', rfl⟩ := h mode hmode
        exact ⟨mode', node?_set_self hroot⟩
      · exact ⟨mode, by rw [node?_set_of_ne fs node heq, hmode]⟩

end Setting

/-- At most what stands where a path leads is another, and directories have stayed directories. New
nodes may have come up anywhere. -/
structure ChangesAt (p : Path) (fs fs' : FileSystem) : Prop extends KeepsWays fs fs' where
  elsewhere : ∀ loc node, fs'.resolve p ≠ .ok loc → fs.node? loc = some node →
    fs'.node? loc = some node

namespace ChangesAt

variable {p : Path} {loc : Location} {fs fs' fs'' : FileSystem}

theorem refl (p : Path) (fs : FileSystem) : ChangesAt p fs fs where
  toKeepsWays := .refl fs
  elsewhere _ _ _ h := h

theorem trans (h : ChangesAt p fs fs') (h' : ChangesAt p fs' fs'') : ChangesAt p fs fs'' where
  toKeepsWays := h.toKeepsWays.trans h'.toKeepsWays
  elsewhere loc node hloc hnode :=
    h'.elsewhere loc node hloc (h.elsewhere loc node (fun hp => hloc (h'.resolve hp)) hnode)

theorem set {node : FileNode} (hresolve : fs.resolve p = .ok loc)
    (h : ∀ mode, fs.node? loc = some (.directory mode) → ∃ mode', node = .directory mode') :
    ChangesAt p fs (fs.set loc node) where
  toKeepsWays := keepsWays_set h
  elsewhere other found hother hfound := by
    rw [node?_set_of_ne fs node, hfound]
    rintro rfl
    exact hother ((keepsWays_set h).resolve hresolve)

theorem set_new (h : fs.node? loc = none) (node : FileNode) (p : Path) :
    ChangesAt p fs (fs.set loc node) where
  toKeepsWays := keepsWays_set (by simp [h])
  elsewhere other found _ hfound := by
    rw [node?_set_of_ne, hfound]
    rintro rfl
    rw [h] at hfound
    cases hfound

/-- What a path leads to stays, unless the change is made there. -/
theorem stat (h : ChangesAt p fs fs') {q : Path} {found : Location × FileNode}
    (hplace : fs'.resolve p ≠ .ok found.1) (hstat : fs.stat q = .ok found) :
    fs'.stat q = .ok found := by
  rw [stat_eq_ok] at hstat ⊢
  exact ⟨h.resolve hstat.1, h.elsewhere _ _ hplace hstat.2⟩

end ChangesAt

section Steps

variable {fs fs' : FileSystem} {p : Path}

theorem makeDirectory_eq_ok (h : fs.makeDirectory p = .ok fs') :
    ∃ loc, fs.place (trimSlashes p) = .ok loc ∧ fs.isTaken loc = false ∧
      fs' = fs.set loc (.directory directoryMode) := by
  rw [makeDirectory] at h
  cases hplace : fs.place (trimSlashes p) with
  | error kind =>
    rw [hplace] at h
    cases h
  | ok loc =>
    simp only [hplace, bind, Except.bind] at h
    split_ifs at h with htaken hmay
    cases h
    exact ⟨loc, rfl, by simpa using htaken, rfl⟩

theorem isTaken_eq_false {loc : Location} :
    fs.isTaken loc = false ↔ fs.node? loc = none ∧ fs.link? loc = none := by
  simp [isTaken]

theorem changesAt_makeDirectory (h : fs.makeDirectory p = .ok fs') (q : Path) :
    ChangesAt q fs fs' := by
  obtain ⟨loc, -, htaken, rfl⟩ := makeDirectory_eq_ok h
  exact ChangesAt.set_new (isTaken_eq_false.mp htaken).1 _ q

section Making

variable {R : FileSystem → FileSystem → Prop}

def made : Except (IoKind × FileSystem) FileSystem → FileSystem
  | .ok fs => fs
  | .error (_, fs) => fs

theorem rel_makeDirectoriesTo (hrefl : ∀ fs, R fs fs)
    (htrans : ∀ fs fs' fs'', R fs fs' → R fs' fs'' → R fs fs'')
    (hmake : ∀ fs fs' p, fs.makeDirectory p = .ok fs' → R fs fs') (depth : Nat) (fs : FileSystem)
    (p : Path) : R fs (made (makeDirectoriesTo depth fs p)) := by
  induction depth generalizing fs p with
  | zero => exact hrefl fs
  | succ depth ih =>
    rw [makeDirectoriesTo]
    split
    · exact hrefl fs
    · split
      · rename_i hdone
        exact hmake _ _ _ hdone
      · split
        · exact hrefl fs
        · rename_i parent _
          have hparents := ih fs parent
          cases hrest : makeDirectoriesTo depth fs parent with
          | error failed =>
            rw [hrest] at hparents
            exact hparents
          | ok fs' =>
            rw [hrest] at hparents
            simp only [bind, Except.bind]
            split
            · rename_i hdone
              exact htrans _ _ _ hparents (hmake _ _ _ hdone)
            · split
              · exact hparents
              · exact hparents
      · split
        · exact hrefl fs
        · exact hrefl fs

theorem rel_makeParents (hrefl : ∀ fs, R fs fs)
    (htrans : ∀ fs fs' fs'', R fs fs' → R fs' fs'' → R fs fs'')
    (hmake : ∀ fs fs' p, fs.makeDirectory p = .ok fs' → R fs fs') (fs : FileSystem) (p : Path) :
    R fs (fs.makeParents p).2 := by
  rw [makeParents]
  split
  · exact hrefl fs
  · rename_i parent _
    have hmade := rel_makeDirectoriesTo hrefl htrans hmake (parent.segments.length + 1) fs parent
    rw [← makeDirectories] at hmade
    cases hresult : fs.makeDirectories parent with
    | ok fs' =>
      rw [hresult] at hmade
      exact hmade
    | error failed =>
      rw [hresult] at hmade
      exact hmade

end Making

theorem changesAt_makeParents (fs : FileSystem) (p q : Path) :
    ChangesAt q fs (fs.makeParents p).2 :=
  rel_makeParents (ChangesAt.refl q) (fun _ _ _ => ChangesAt.trans)
    (fun _ _ _ hmake => changesAt_makeDirectory hmake q) fs p

theorem changesAt_withMode {loc : Location} {node : FileNode} (h : fs.stat p = .ok (loc, node))
    (mode : Nat) : ChangesAt p fs (fs.set loc (withMode mode node)) := by
  rw [stat_eq_ok] at h
  apply ChangesAt.set h.1
  intro old hold
  rw [h.2] at hold
  cases hold
  exact ⟨_, rfl⟩

theorem changesAt_relax (fs : FileSystem) (p : Path) : ChangesAt p fs (fs.relax p).2 := by
  rw [relax]
  split
  · exact ChangesAt.refl p fs
  · rename_i loc node hstat
    exact changesAt_withMode hstat _

theorem changesAt_changeMode (fs : FileSystem) (p : Path) (mode : Nat) :
    ChangesAt p fs (fs.changeMode p mode).2 := by
  rw [changeMode, setMode]
  cases hstat : fs.stat p with
  | error kind => exact ChangesAt.refl p fs
  | ok found => exact changesAt_withMode hstat mode

theorem changesAt_prepare (fs : FileSystem) (p : Path) (overwrite : Bool) :
    ChangesAt p fs (fs.prepare p overwrite).2 := by
  have hrelax := changesAt_relax fs p
  rw [prepare]
  split
  · split
    · split
      · rename_i fs' heq
        rw [heq] at hrelax
        exact hrelax.trans (changesAt_makeParents fs' p p)
      · exact hrelax
    · exact ChangesAt.refl p fs
  · exact changesAt_makeParents fs p p

theorem changesAt_append {loc : Location} (h : fs.resolve p = .ok loc) (bytes : List UInt8) :
    ChangesAt p fs (fs.append loc bytes) := by
  rw [append]
  split
  · rename_i mode old hnode
    apply ChangesAt.set h
    intro mode hdirectory
    rw [hnode] at hdirectory
    cases hdirectory
  · exact ChangesAt.refl p fs

theorem createFile_eq_ok {loc : Location} (h : fs.createFile p = .ok (loc, fs')) :
    fs.resolve p = .ok loc ∧ (∀ mode, fs.node? loc ≠ some (.directory mode)) ∧
      ∃ mode, fs' = fs.set loc (.file mode []) := by
  rw [createFile] at h
  split at h
  · split at h
    · split at h
      · cases h
      · cases h
    · cases h
  · cases hresolve : fs.resolve p with
    | error kind =>
      rw [hresolve] at h
      cases h
    | ok found =>
      rw [hresolve] at h
      simp only [bind, Except.bind] at h
      split at h
      · cases h
      · rename_i mode bytes hnode
        split_ifs at h
        cases h
        refine ⟨rfl, ?_, mode, rfl⟩
        simp [hnode]
      · rename_i hnode
        split_ifs at h
        cases h
        refine ⟨rfl, ?_, fileMode, rfl⟩
        simp [hnode]

theorem changesAt_createFile {loc : Location} (h : fs.createFile p = .ok (loc, fs')) :
    ChangesAt p fs fs' ∧ fs'.resolve p = .ok loc := by
  obtain ⟨hresolve, hnode, mode, rfl⟩ := createFile_eq_ok h
  have hchange : ChangesAt p fs (fs.set loc (.file mode [])) :=
    ChangesAt.set hresolve fun _ hdirectory => absurd hdirectory (hnode _)
  exact ⟨hchange, hchange.resolve hresolve⟩

/-- Getting a file ready changes at most what stands where its path leads. -/
theorem changesAt_createOutput (fs : FileSystem) (p : Path) (overwrite : Bool) :
    ChangesAt p fs (fs.createOutput p overwrite).2 ∧
      ∀ loc, (fs.createOutput p overwrite).1 = .ok loc →
        (fs.createOutput p overwrite).2.resolve p = .ok loc := by
  have hprepare := changesAt_prepare fs p overwrite
  rw [createOutput]
  generalize fs.prepare p overwrite = prepared at hprepare ⊢
  obtain ⟨_ | _, fs'⟩ := prepared
  · exact ⟨hprepare, nofun⟩
  · dsimp only at hprepare ⊢
    cases hcreate : fs'.createFile p with
    | error kind => exact ⟨hprepare, nofun⟩
    | ok created =>
      obtain ⟨loc, fs''⟩ := created
      obtain ⟨hfile, hloc⟩ := changesAt_createFile hcreate
      refine ⟨hprepare.trans hfile, ?_⟩
      intro found hfound
      cases hfound
      exact hloc

end Steps

end SchemaForge.FileSystem
