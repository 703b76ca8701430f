import Mathlib.Data.List.SplitBy
import SchemaForge.Proofs.Output.Tidying

/-! Limiting blank lines, as the only step of a chain. Of each run of blank lines the first few are
kept, all other lines stay, and no kept line is changed; but a kept line is still checked like any
result, so the first that is no line of output ends the run. -/

namespace SchemaForge

namespace Line

variable {max run : Nat} {lines : List Line}

/-- Of a run of blank lines the first `max`; a run of other lines stays. -/
def cutRun (max : Nat) (run : List Line) : List Line :=
  if run.all isBlank then run.take max else run

def limited (max : Nat) (lines : List Line) : List Line :=
  (lines.splitBy fun a b => a.isBlank == b.isBlank).flatMap (cutRun max)

def limitAfter (max : Nat) (run : Nat) : List Line → List Line
  | [] => []
  | line :: rest =>
    if line.isBlank then
      if run < max then line :: limitAfter max (run + 1) rest else limitAfter max (run + 1) rest
    else line :: limitAfter max 0 rest

section Counting

variable {line : Line}

theorem limitAfter_of_not_blank (h : line.isBlank = false) :
    limitAfter max run (line :: lines) = line :: limitAfter max 0 lines := by
  simp [limitAfter, h]

theorem limitAfter_of_kept (h : line.isBlank = true) (hrun : run < max) :
    limitAfter max run (line :: lines) = line :: limitAfter max (run + 1) lines := by
  simp [limitAfter, h, hrun]

theorem limitAfter_of_dropped (h : line.isBlank = true) (hrun : max ≤ run) :
    limitAfter max run (line :: lines) = limitAfter max (run + 1) lines := by
  simp [limitAfter, h, Nat.not_lt.mpr hrun]

theorem limitAfter_sublist (max run : Nat) (lines : List Line) :
    (limitAfter max run lines).Sublist lines := by
  induction lines generalizing run with
  | nil => exact List.Sublist.refl []
  | cons line rest ih =>
    rw [limitAfter]
    split
    · split
      · exact (ih _).cons_cons line
      · exact (ih _).cons line
    · exact (ih _).cons_cons line

theorem filter_limitAfter (max run : Nat) (lines : List Line) :
    (limitAfter max run lines).filter (fun line => !line.isBlank) =
      lines.filter fun line => !line.isBlank := by
  induction lines generalizing run with
  | nil => rfl
  | cons line rest ih =>
    rw [limitAfter]
    split
    · split
      · simp [*]
      · simp [*]
    · simp [*]

theorem limitAfter_zero (run : Nat) (lines : List Line) :
    limitAfter 0 run lines = lines.filter fun line => !line.isBlank := by
  induction lines generalizing run with
  | nil => rfl
  | cons line rest ih =>
    cases hblank : line.isBlank with
    | true => rw [limitAfter_of_dropped hblank (Nat.zero_le run), ih]; simp [hblank]
    | false => rw [limitAfter_of_not_blank hblank, ih]; simp [hblank]

/-- Blank lines in front leave as many as the limit still allows. -/
theorem limitAfter_blank_append {blank : List Line} (h : ∀ line ∈ blank, line.isBlank = true)
    (max run : Nat) (rest : List Line) :
    limitAfter max run (blank ++ rest) =
      blank.take (max - run) ++ limitAfter max (run + blank.length) rest := by
  induction blank generalizing run with
  | nil => simp
  | cons line blank ih =>
    obtain ⟨hline, hblank⟩ := List.forall_mem_cons.mp h
    have hlength : run + (line :: blank).length = run + 1 + blank.length := by
      rw [List.length_cons]
      omega
    rw [hlength, List.cons_append]
    by_cases hrun : run < max
    · obtain ⟨more, hmore⟩ : ∃ more, max - run = more + 1 := ⟨max - run - 1, by omega⟩
      have hnext : max - (run + 1) = more := by omega
      rw [limitAfter_of_kept hline hrun, ih hblank, hmore, hnext, List.take_succ_cons,
        List.cons_append]
    · have hnone : max - run = 0 := by omega
      have hnone' : max - (run + 1) = 0 := by omega
      rw [limitAfter_of_dropped hline (Nat.not_lt.mp hrun), ih hblank, hnone, hnone',
        List.take_zero, List.take_zero]

theorem limitAfter_solid_append {solid : List Line} (h : ∀ line ∈ solid, line.isBlank = false)
    (hne : solid ≠ []) (max run : Nat) (rest : List Line) :
    limitAfter max run (solid ++ rest) = solid ++ limitAfter max 0 rest := by
  induction solid generalizing run with
  | nil => exact absurd rfl hne
  | cons line solid ih =>
    obtain ⟨hline, hsolid⟩ := List.forall_mem_cons.mp h
    rw [List.cons_append, limitAfter_of_not_blank hline, List.cons_append]
    cases solid with
    | nil => rfl
    | cons next solid => rw [ih hsolid (by simp)]

theorem limitAfter_of_head (h : ∀ line ∈ lines.head?, line.isBlank = false) :
    limitAfter max run lines = limitAfter max 0 lines := by
  cases lines with
  | nil => rfl
  | cons line rest =>
    have hline := h line rfl
    rw [limitAfter_of_not_blank hline, limitAfter_of_not_blank hline]

end Counting

section Runs

theorem isBlank_eq_of_isChain {line : Line} {run : List Line}
    (h : (line :: run).IsChain fun a b => (a.isBlank == b.isBlank) = true) :
    ∀ other ∈ run, other.isBlank = line.isBlank := by
  induction run generalizing line with
  | nil => simp
  | cons next run ih =>
    rw [List.isChain_cons_cons, beq_iff_eq] at h
    rw [List.forall_mem_cons, h.1]
    exact ⟨rfl, ih h.2⟩

/-- The induction is on the runs; after a blank one the count does not matter, as the next run
begins with a line that is not blank. -/
theorem limitAfter_flatten {runs : List (List Line)} (hne : [] ∉ runs)
    (hruns : ∀ run ∈ runs, run.IsChain fun a b => (a.isBlank == b.isBlank) = true)
    (hnext : runs.IsChain fun a b =>
      ∃ ha hb, ((a.getLast ha).isBlank == (b.head hb).isBlank) = false) :
    limitAfter max 0 runs.flatten = runs.flatMap (cutRun max) := by
  induction runs with
  | nil => rfl
  | cons run rest ih =>
    rw [List.mem_cons, not_or] at hne
    obtain ⟨hrun, hrest⟩ := List.forall_mem_cons.mp hruns
    have hafter := ih hne.2 hrest hnext.tail
    cases run with
    | nil => exact absurd rfl hne.1
    | cons line run =>
      have hsame := isBlank_eq_of_isChain hrun
      rw [List.flatten_cons, List.flatMap_cons]
      cases hblank : line.isBlank with
      | true =>
        have hall : ∀ other ∈ line :: run, other.isBlank = true :=
          List.forall_mem_cons.mpr ⟨hblank, fun other h => (hsame other h).trans hblank⟩
        have hhead : ∀ other ∈ rest.flatten.head?, other.isBlank = false := by
          intro other hother
          cases rest with
          | nil => cases hother
          | cons next more =>
            obtain ⟨ha, hb, hdiffer⟩ := (List.isChain_cons_cons.mp hnext).1
            have hlast := hall _ (List.getLast_mem ha)
            obtain ⟨first, next, rfl⟩ := List.exists_cons_of_ne_nil hb
            obtain rfl : first = other := by simpa using hother
            simpa [hlast] using hdiffer
        rw [limitAfter_blank_append hall, limitAfter_of_head hhead, hafter, cutRun,
          if_pos (List.all_eq_true.mpr hall), Nat.sub_zero]
      | false =>
        have hall : ∀ other ∈ line :: run, other.isBlank = false :=
          List.forall_mem_cons.mpr ⟨hblank, fun other h => (hsame other h).trans hblank⟩
        rw [limitAfter_solid_append hall (by simp), hafter, cutRun, if_neg (by simp [hblank])]

theorem limitAfter_eq_limited (max : Nat) (lines : List Line) :
    limitAfter max 0 lines = limited max lines := by
  have hflatten := @limitAfter_flatten max _ (List.nil_notMem_splitBy _ lines)
    (fun run hrun => List.isChain_of_mem_splitBy hrun)
    (List.isChain_getLast_head_splitBy (fun a b => a.isBlank == b.isBlank) lines)
  rwa [List.flatten_splitBy] at hflatten

end Runs

end Line

namespace LineChain

variable {max : Nat} {line : Line} {lines seen : List Line}

theorem run_of_breach {stage : LineStage} {rest : List LineStage} {out : Line} {message : String}
    (hprocess : stage.processor.process stage.seen line = .ok out)
    (hbreach : breach? out = some message) :
    run (stage :: rest) line = (.error (.contract stage.processor.name message),
      { stage with seen := line :: stage.seen } :: rest) := by
  simp [run, hprocess, hbreach]

/-- A line over the limit is dropped whatever it holds; all others are checked. -/
theorem apply_limitEmpty (helided : line.isElided = false) :
    (⟨[⟨.limitEmpty max, seen⟩]⟩ : LineChain).apply line =
      (if line.isBlank ∧ max ≤ blankRun seen then .ok none
        else match breach? line with
          | some message => .error (.contract LineProcessor.limitName message)
          | none => .ok (some line), ⟨[⟨.limitEmpty max, line :: seen⟩]⟩) := by
  have hprocess := process_limitEmpty max seen line
  rw [apply_eq]
  split
  · rename_i hdrop
    rw [if_pos hdrop] at hprocess
    rw [run_of_elided hprocess rfl rfl]
  · rename_i hkeep
    rw [if_neg hkeep] at hprocess
    cases hbreach : breach? line with
    | some message =>
      rw [run_of_breach hprocess hbreach]
      rfl
    | none =>
      rw [run_of_kept hprocess hbreach helided]
      rfl

def checked (lines : List Line) : Except GenerationError (List Line) :=
  match lines.findSome? breach? with
  | some message => .error (.contract LineProcessor.limitName message)
  | none => .ok lines

theorem checked_cons (line : Line) (lines : List Line) :
    checked (line :: lines) = match breach? line with
      | some message => .error (.contract LineProcessor.limitName message)
      | none => (checked lines).map (line :: ·) := by
  unfold checked
  rw [List.findSome?_cons]
  cases breach? line with
  | some message => rfl
  | none =>
    dsimp only
    cases lines.findSome? breach? <;> rfl

theorem applyAll_eq_checked (h : ∀ line ∈ lines, line.isElided = false) :
    (⟨[⟨.limitEmpty max, seen⟩]⟩ : LineChain).applyAll lines =
      checked (Line.limitAfter max (blankRun seen) lines) := by
  induction lines generalizing seen with
  | nil => rfl
  | cons line rest ih =>
    obtain ⟨hline, hrest⟩ := List.forall_mem_cons.mp h
    have hafter := @ih (line :: seen) hrest
    rw [blankRun_cons] at hafter
    rw [applyAll, apply_limitEmpty hline]
    cases hblank : line.isBlank with
    | true =>
      rw [hblank, if_pos rfl] at hafter
      by_cases hrun : max ≤ blankRun seen
      · rw [Line.limitAfter_of_dropped hblank hrun, if_pos ⟨rfl, hrun⟩]
        dsimp only
        rw [hafter]
        cases checked _ <;> rfl
      · rw [Line.limitAfter_of_kept hblank (Nat.not_le.mp hrun), if_neg (by simp [hrun]),
          checked_cons]
        cases breach? line with
        | some message => rfl
        | none =>
          dsimp only
          rw [hafter]
          rfl
    | false =>
      rw [hblank, if_neg Bool.false_ne_true] at hafter
      rw [Line.limitAfter_of_not_blank hblank, if_neg (by simp), checked_cons]
      cases breach? line with
      | some message => rfl
      | none =>
        dsimp only
        rw [hafter]
        rfl

/-- Limiting alone keeps the lines with every run of blank lines cut to its first `max`: lines of
the list in their order, and among them all that are not blank, which for `max = 0` are the only
ones. It fails exactly at the first kept line that is no line of output, with the breach of it. -/
theorem applyAll_limitEmpty (max : Nat) (seen lines : List Line)
    (h : ∀ line ∈ lines, line.isElided = false) :
    let kept := Line.limited max lines
    (⟨[⟨.limitEmpty max, seen⟩]⟩ : LineChain).reset.applyAll lines =
        (match kept.findSome? breach? with
          | some message => .error (.contract LineProcessor.limitName message)
          | none => .ok kept) ∧
      kept.Sublist lines ∧
      kept.filter (fun line => !line.isBlank) = lines.filter (fun line => !line.isBlank) ∧
      Line.limited 0 lines = lines.filter fun line => !line.isBlank := by
  intro kept
  have hkept : Line.limitAfter max 0 lines = kept := Line.limitAfter_eq_limited max lines
  refine ⟨?_, ?_, ?_, ?_⟩
  · rw [← hkept]
    exact @applyAll_eq_checked max _ [] h
  · rw [← hkept]
    exact Line.limitAfter_sublist max 0 lines
  · rw [← hkept]
    exact Line.filter_limitAfter max 0 lines
  · rw [← Line.limitAfter_eq_limited]
    exact Line.limitAfter_zero 0 lines

/-- Of two runs of blank lines the first of each is kept, after a file that ended with one. -/
theorem applyAll_limitEmpty_runs :
    let lines : List Line :=
      [⟨[' '], ['\n']⟩, ⟨[], ['\r', '\n']⟩, ⟨['a'], ['\n']⟩, ⟨[], ['\n']⟩, ⟨['\t'], []⟩]
    (∀ line ∈ lines, line.isElided = false) ∧
      (⟨[⟨.limitEmpty 1, [⟨[], ['\n']⟩]⟩]⟩ : LineChain).reset.applyAll lines =
        .ok [⟨[' '], ['\n']⟩, ⟨['a'], ['\n']⟩, ⟨[], ['\n']⟩] := by
  intro lines
  have hlines : ∀ line ∈ lines, line.isElided = false := by decide
  exact ⟨hlines, (applyAll_limitEmpty 1 [⟨[], ['\n']⟩] lines hlines).1.trans (by decide)⟩

/-- A line that ends with a tab is not kept as it is, though it is not blank. -/
theorem applyAll_limitEmpty_tab :
    let lines : List Line := [⟨['x'], ['\t']⟩]
    (∀ line ∈ lines, line.isElided = false) ∧
      (ofList [.limitEmpty 1]).applyAll lines ≠ .ok (Line.limited 1 lines) ∧
      (ofList [.limitEmpty 1]).applyAll lines =
        .error (.contract "limit-empty-lines" "\"\\t\" is not a line terminator") := by
  decide

end LineChain

end SchemaForge
