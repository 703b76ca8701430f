import SchemaForge.Output.Processor
import SchemaForge.Proofs.Files.Frame

/-! Processors that leave a file where it is, and those that also leave every other file alone. What
each of them leaves alone all of them leave alone. -/

namespace SchemaForge.FileProcessor

open FileSystem (ChangesAt)

variable {processors : List FileProcessor} {files : FileSystem} {path path' : Path}

/-- Where the processor succeeds, the file is still at the path it was given. -/
def KeepsPath (f : FileProcessor) : Prop :=
  ∀ files path path', (f.process files path).1 = .ok path' → path' = path

theorem keepsPath_setMode (mode : Nat) : (setMode mode).KeepsPath := by
  intro files path path' h
  simp only [setMode] at h
  split at h
  · cases h
    rfl
  · cases h

theorem eq_of_runAll (h : ∀ f ∈ processors, f.KeepsPath)
    (hrun : (runAll files path processors).1 = .ok path') : path' = path := by
  induction processors generalizing files path with
  | nil =>
    simp only [runAll, Except.ok.injEq] at hrun
    exact hrun.symm
  | cons f rest ih =>
    rw [List.forall_mem_cons] at h
    have hfirst := h.1 files path
    rw [runAll] at hrun
    generalize f.process files path = r at hfirst hrun
    obtain ⟨_ | between, files'⟩ := r
    · cases hrun
    · rw [ih h.2 hrun, hfirst between rfl]

/-- The processor changes no file but the one it is given, and leaves that one at its path. -/
structure Confined (f : FileProcessor) : Prop where
  keepsPath : f.KeepsPath
  changes : ∀ files path, ChangesAt path files (f.process files path).2

theorem confined_setMode (mode : Nat) : (setMode mode).Confined where
  keepsPath := keepsPath_setMode mode
  changes files path := by
    have hmode := FileSystem.changesAt_changeMode files path mode
    simp only [setMode]
    generalize files.changeMode path mode = r at hmode ⊢
    obtain ⟨_ | _, files'⟩ := r
    · exact hmode
    · exact hmode

theorem changesAt_runAll (h : ∀ f ∈ processors, f.Confined) (files : FileSystem) (path : Path) :
    ChangesAt path files (runAll files path processors).2 := by
  induction processors generalizing files with
  | nil => exact ChangesAt.refl _ files
  | cons f rest ih =>
    rw [List.forall_mem_cons] at h
    have hfirst := h.1.changes files path
    have hpath := h.1.keepsPath files path
    rw [runAll]
    generalize f.process files path = r at hfirst hpath ⊢
    obtain ⟨_ | between, files'⟩ := r
    · exact hfirst
    · dsimp only at hfirst ⊢
      rw [hpath between rfl]
      exact hfirst.trans (ih h.2 files')

end SchemaForge.FileProcessor
