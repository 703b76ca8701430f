import Mathlib.Data.List.DropRight
import SchemaForge.Proofs.Output.Resetting

/-! Trimming lines and limiting blank ones. Both processors together keep the lines that are not
blank, trimmed, and at most so many blank lines between them; which of the two comes first makes no
difference, and neither does a second pass. -/

namespace SchemaForge

namespace Text

variable {cs : List Char}

theorem trimEnd_eq_rdropWhile (cs : List Char) : trimEnd cs = cs.rdropWhile isBlank := rfl

theorem trimEnd_eq_nil_iff : trimEnd cs = [] ↔ cs.all isBlank = true := by
  rw [trimEnd_eq_rdropWhile, List.rdropWhile_eq_nil_iff, List.all_eq_true]

theorem trimEnd_prefix (cs : List Char) : trimEnd cs <+: cs :=
  List.rdropWhile_prefix isBlank cs

theorem isBlank_of_getLast?_trimEnd {c : Char} (h : (trimEnd cs).getLast? = some c) :
    isBlank c = false := by
  have hne : trimEnd cs ≠ [] := by
    intro hnil
    rw [hnil] at h
    cases h
  rw [List.getLast?_eq_some_getLast hne, Option.some.injEq] at h
  rw [← h, ← Bool.not_eq_true]
  exact List.rdropWhile_last_not isBlank cs hne

theorem all_isBlank_trimEnd (cs : List Char) : (trimEnd cs).all isBlank = cs.all isBlank := by
  rw [Bool.eq_iff_iff, ← trimEnd_eq_nil_iff, trimEnd_trimEnd, trimEnd_eq_nil_iff]

end Text

namespace Line

def trimmed (line : Line) : Line :=
  { line with content := Text.trimEnd line.content }

@[simp] theorem trimmed_terminator (line : Line) : line.trimmed.terminator = line.terminator := rfl

@[simp] theorem trimmed_trimmed (line : Line) : line.trimmed.trimmed = line.trimmed := by
  simp [trimmed, Text.trimEnd_trimEnd]

@[simp] theorem isBlank_trimmed (line : Line) : line.trimmed.isBlank = line.isBlank :=
  Text.all_isBlank_trimEnd line.content

/-- The lines that are not blank, trimmed, and of every run of blank lines the first `max`, trimmed
as well; `run` blank lines come before. A blank line without a terminator leaves nothing. -/
def tidy (max : Nat) (run : Nat) : List Line → List Line
  | [] => []
  | line :: rest =>
    if line.isBlank then
      if run < max ∧ line.terminator ≠ [] then line.trimmed :: tidy max (run + 1) rest
      else tidy max (run + 1) rest
    else line.trimmed :: tidy max 0 rest

variable {max run : Nat} {line : Line} {lines : List Line} {text : List Char}

theorem tidy_of_kept (hblank : line.isBlank = true) (hrun : run < max)
    (hend : line.terminator ≠ []) :
    tidy max run (line :: lines) = line.trimmed :: tidy max (run + 1) lines := by
  simp [tidy, hblank, hrun, hend]

theorem tidy_of_dropped (hblank : line.isBlank = true) (h : ¬ (run < max ∧ line.terminator ≠ [])) :
    tidy max run (line :: lines) = tidy max (run + 1) lines := by
  rw [tidy, if_pos hblank, if_neg h]

theorem tidy_of_not_blank (hblank : line.isBlank = false) :
    tidy max run (line :: lines) = line.trimmed :: tidy max 0 lines := by
  simp [tidy, hblank]

theorem tidy_cons (max run : Nat) (line : Line) (lines : List Line) :
    ∃ next, tidy max run (line :: lines) = line.trimmed :: tidy max next lines ∨
      tidy max run (line :: lines) = tidy max next lines := by
  rw [tidy]
  split
  · split
    · exact ⟨run + 1, Or.inl rfl⟩
    · exact ⟨run + 1, Or.inr rfl⟩
  · exact ⟨0, Or.inl rfl⟩

theorem tidy_sublist (max run : Nat) (lines : List Line) :
    (tidy max run lines).Sublist (lines.map trimmed) := by
  induction lines generalizing run with
  | nil => exact List.Sublist.refl []
  | cons line rest ih =>
    rw [List.map_cons]
    obtain ⟨next, heq | heq⟩ := tidy_cons max run line rest
    · rw [heq]
      exact (ih next).cons_cons line.trimmed
    · rw [heq]
      exact (ih next).cons line.trimmed

theorem filter_tidy (max run : Nat) (lines : List Line) :
    (tidy max run lines).filter (fun line => !line.isBlank) =
      (lines.filter fun line => !line.isBlank).map trimmed := by
  induction lines generalizing run with
  | nil => rfl
  | cons line rest ih =>
    rw [tidy]
    split
    · split
      · simp [*]
      · simp [*]
    · simp [*]

/-- A second pass changes nothing, even if fewer blank lines come before it. -/
theorem tidy_tidy {before : Nat} (h : before ≤ run) :
    tidy max before (tidy max run lines) = tidy max run lines := by
  induction lines generalizing before run with
  | nil => rfl
  | cons line rest ih =>
    cases hblank : line.isBlank with
    | false =>
      rw [tidy_of_not_blank hblank, tidy_of_not_blank (by rwa [isBlank_trimmed]), trimmed_trimmed,
        ih (Nat.le_refl 0)]
    | true =>
      by_cases hkeep : run < max ∧ line.terminator ≠ []
      · have hagain : line.trimmed.isBlank = true := by rwa [isBlank_trimmed]
        have hbefore : before < max := by omega
        rw [tidy_of_kept hblank hkeep.1 hkeep.2, tidy_of_kept hagain hbefore hkeep.2,
          trimmed_trimmed, ih (by omega)]
      · rw [tidy_of_dropped hblank hkeep, ih (by omega)]

theorem length_blank_of_prefix {blank : List Line} (hblank : ∀ line ∈ blank, line.isBlank = true)
    (h : blank <+: tidy max run lines) : blank.length ≤ max - run := by
  induction lines generalizing run blank with
  | nil => simp [List.prefix_nil.mp h]
  | cons line rest ih =>
    cases hline : line.isBlank with
    | false =>
      rw [tidy_of_not_blank hline, List.prefix_cons_iff] at h
      rcases h with rfl | ⟨more, rfl, -⟩
      · simp
      · have hfirst := hblank line.trimmed List.mem_cons_self
        simp [hline] at hfirst
    | true =>
      by_cases hkeep : run < max ∧ line.terminator ≠ []
      · rw [tidy_of_kept hline hkeep.1 hkeep.2, List.prefix_cons_iff] at h
        rcases h with rfl | ⟨more, rfl, hmore⟩
        · simp
        · have hlength := ih (List.forall_mem_cons.mp hblank).2 hmore
          rw [List.length_cons]
          omega
      · rw [tidy_of_dropped hline hkeep] at h
        have hlength := ih hblank h
        omega

/-- Blank lines stand in runs of at most `max`. -/
theorem length_blank_of_infix {blank : List Line} (hblank : ∀ line ∈ blank, line.isBlank = true)
    (h : blank <:+: tidy max run lines) : blank.length ≤ max := by
  induction lines generalizing run with
  | nil => simp [List.infix_nil.mp h]
  | cons line rest ih =>
    have hprefix : blank <+: tidy max run (line :: rest) → blank.length ≤ max := by
      intro hfront
      have hlength := length_blank_of_prefix hblank hfront
      omega
    obtain ⟨next, heq | heq⟩ := tidy_cons max run line rest
    · rw [heq] at h hprefix
      rcases List.infix_cons_iff.mp h with hfront | hrest
      · exact hprefix hfront
      · exact ih hrest
    · rw [heq] at h
      exact ih h

theorem trimEnd_ne_return {content : List Char} :
    (Text.trimEnd content).getLast? ≠ some '\r' := by
  intro h
  have hblank := Text.isBlank_of_getLast?_trimEnd h
  revert hblank
  decide

theorem notMem_trimEnd {content : List Char} {c : Char} (h : c ∉ content) :
    c ∉ Text.trimEnd content :=
  fun hmem => h ((Text.trimEnd_prefix content).subset hmem)

theorem splits_trimmed_cons {kept : List Line}
    (hline : line.terminator = ['\n'] ∨ line.terminator = ['\r', '\n'])
    (hcontent : '\n' ∉ line.content) (hkept : Splits (kept.flatMap Line.text) kept) :
    Splits ((line.trimmed :: kept).flatMap Line.text) (line.trimmed :: kept) := by
  obtain ⟨content, terminator⟩ := line
  rcases hline with rfl | rfl
  · simpa [trimmed, Line.text] using Splits.feed (notMem_trimEnd hcontent) trimEnd_ne_return hkept
  · simpa [trimmed, Line.text] using Splits.returnFeed (notMem_trimEnd hcontent) hkept

theorem splits_tidy_cons (hline : line.terminator = ['\n'] ∨ line.terminator = ['\r', '\n'])
    (hcontent : '\n' ∉ line.content)
    (hrest : ∀ run, Splits ((tidy max run lines).flatMap Line.text) (tidy max run lines)) :
    Splits ((tidy max run (line :: lines)).flatMap Line.text) (tidy max run (line :: lines)) := by
  obtain ⟨next, heq | heq⟩ := tidy_cons max run line lines
  · rw [heq]
    exact splits_trimmed_cons hline hcontent (hrest next)
  · rw [heq]
    exact hrest next

/-- The lines that are left are the lines of the text that they make up. -/
theorem splits_tidy (h : Splits text lines) (max run : Nat) :
    Splits ((tidy max run lines).flatMap Line.text) (tidy max run lines) := by
  induction h generalizing run with
  | nil => exact Splits.nil
  | @last content hne hcontent =>
    cases hblank : isBlank ⟨content, []⟩ with
    | true =>
      rw [tidy_of_dropped hblank (by simp)]
      exact Splits.nil
    | false =>
      have htrimmed : Text.trimEnd content ≠ [] := by
        intro hnil
        rw [Text.trimEnd_eq_nil_iff] at hnil
        rw [isBlank, hnil] at hblank
        cases hblank
      rw [tidy_of_not_blank hblank]
      simpa [trimmed, tidy, Line.text] using Splits.last htrimmed (notMem_trimEnd hcontent)
  | feed hcontent hend hrest ih => exact splits_tidy_cons (Or.inl rfl) hcontent ih
  | returnFeed hcontent hrest ih => exact splits_tidy_cons (Or.inr rfl) hcontent ih

end Line

namespace LineChain

variable {max count : Nat} {chain : LineChain} {line : Line} {lines : List Line} {text : List Char}

theorem breach?_trimmed (h : breach? line = none) : breach? line.trimmed = none := by
  unfold breach? at *
  split at h
  · cases h
  · rename_i hterminator
    split at h
    · cases h
    · rename_i hcontent
      have htrimmed : line.trimmed.content.contains '\n' = false := by
        simp only [List.contains_eq_mem, decide_eq_true_eq] at hcontent
        simpa [Line.trimmed] using Line.notMem_trimEnd hcontent
      rw [Line.trimmed_terminator, if_neg hterminator, htrimmed]
      rfl

def blankRun (seen : List Line) : Nat :=
  (seen.takeWhile (·.isBlank)).length

theorem blankRun_cons (line : Line) (seen : List Line) :
    blankRun (line :: seen) = if line.isBlank then blankRun seen + 1 else 0 := by
  cases h : line.isBlank <;> simp [blankRun, h]

theorem process_limitEmpty (max : Nat) (seen : List Line) (line : Line) :
    (LineProcessor.limitEmpty max).process seen line =
      .ok (if line.isBlank ∧ max ≤ blankRun seen then .elided else line) := by
  by_cases h : line.isBlank ∧ max ≤ blankRun seen
  · rw [if_pos h]
    simp only [blankRun] at h
    simp only [LineProcessor.limitEmpty, Nat.lt_add_one_iff, Bool.and_eq_true, decide_eq_true_eq,
      if_pos h]
  · rw [if_neg h]
    simp only [blankRun] at h
    simp only [LineProcessor.limitEmpty, Nat.lt_add_one_iff, Bool.and_eq_true, decide_eq_true_eq,
      if_neg h]

theorem run_of_kept {stage : LineStage} {rest : List LineStage} {out : Line}
    (hprocess : stage.processor.process stage.seen line = .ok out) (hbreach : breach? out = none)
    (helided : out.isElided = false) :
    run (stage :: rest) line =
      ((run rest out).1, { stage with seen := line :: stage.seen } :: (run rest out).2) := by
  simp [run, hprocess, hbreach, helided]

theorem run_of_elided {stage : LineStage} {rest : List LineStage} {out : Line}
    (hprocess : stage.processor.process stage.seen line = .ok out) (hbreach : breach? out = none)
    (helided : out.isElided = true) :
    run (stage :: rest) line = (.ok none, { stage with seen := line :: stage.seen } :: rest) := by
  simp [run, hprocess, hbreach, helided]

theorem run_trim {given : List Line} {rest : List LineStage} (hbreach : breach? line = none)
    (helided : line.trimmed.isElided = false) :
    run (⟨.trimTrailing, given⟩ :: rest) line =
      ((run rest line.trimmed).1, ⟨.trimTrailing, line :: given⟩ :: (run rest line.trimmed).2) :=
  run_of_kept rfl (breach?_trimmed hbreach) helided

theorem run_limit {seen : List Line} {rest : List LineStage} (hbreach : breach? line = none)
    (helided : line.isElided = false) :
    run (⟨.limitEmpty max, seen⟩ :: rest) line =
      if line.isBlank ∧ max ≤ blankRun seen then
        (.ok none, ⟨.limitEmpty max, line :: seen⟩ :: rest)
      else ((run rest line).1, ⟨.limitEmpty max, line :: seen⟩ :: (run rest line).2) := by
  have hprocess := process_limitEmpty max seen line
  split
  · rename_i hdrop
    rw [if_pos hdrop] at hprocess
    exact run_of_elided hprocess rfl rfl
  · rename_i hkeep
    rw [if_neg hkeep] at hprocess
    exact run_of_kept hprocess hbreach helided

/-- A chain of the two processors in either order, after a run of blank lines. -/
inductive Tidies (max : Nat) : Nat → LineChain → Prop where
  | trimFirst (given seen : List Line) :
      Tidies max (blankRun seen) ⟨[⟨.trimTrailing, given⟩, ⟨.limitEmpty max, seen⟩]⟩
  | limitFirst (given seen : List Line) :
      Tidies max (blankRun seen) ⟨[⟨.limitEmpty max, seen⟩, ⟨.trimTrailing, given⟩]⟩

theorem isElided_of_terminator (h : line.terminator ≠ []) : line.isElided = false := by
  simp [Line.isElided, h]

theorem apply_eq (chain : LineChain) (line : Line) :
    chain.apply line = ((run chain.stages line).1, ⟨(run chain.stages line).2⟩) := rfl

theorem Tidies.apply (h : Tidies max count chain) (hbreach : breach? line = none)
    (hend : line.terminator ≠ []) :
    (chain.apply line).1 = .ok (if line.isBlank ∧ max ≤ count then none else some line.trimmed) ∧
      Tidies max (if line.isBlank then count + 1 else 0) (chain.apply line).2 := by
  have helided : line.isElided = false := isElided_of_terminator hend
  have helided' : line.trimmed.isElided = false := isElided_of_terminator hend
  cases h with
  | trimFirst given seen =>
    have hafter := @Tidies.trimFirst max (line :: given) (line.trimmed :: seen)
    rw [blankRun_cons, Line.isBlank_trimmed] at hafter
    rw [apply_eq, run_trim hbreach helided', run_limit (breach?_trimmed hbreach) helided',
      Line.isBlank_trimmed]
    by_cases hdrop : line.isBlank ∧ max ≤ blankRun seen
    · rw [if_pos hdrop, if_pos hdrop]
      exact ⟨rfl, hafter⟩
    · rw [if_neg hdrop, if_neg hdrop]
      exact ⟨rfl, hafter⟩
  | limitFirst given seen =>
    rw [apply_eq, run_limit hbreach helided, ← blankRun_cons]
    by_cases hdrop : line.isBlank ∧ max ≤ blankRun seen
    · rw [if_pos hdrop, if_pos hdrop]
      exact ⟨rfl, .limitFirst given (line :: seen)⟩
    · rw [if_neg hdrop, if_neg hdrop, run_trim hbreach helided']
      exact ⟨rfl, .limitFirst (line :: given) (line :: seen)⟩

/-- A last line without a terminator is dropped if it is blank, whichever processor comes first. -/
theorem Tidies.apply_last (h : Tidies max count chain) (hbreach : breach? line = none)
    (hend : line.terminator = []) (helided : line.isElided = false) :
    (chain.apply line).1 = .ok (if line.isBlank then none else some line.trimmed) := by
  have htrimmed : line.trimmed.isElided = line.isBlank := by
    rw [Bool.eq_iff_iff, Line.isBlank, ← Text.trimEnd_eq_nil_iff]
    simp [Line.isElided, Line.trimmed, hend]
  cases hblank : line.isBlank with
  | true =>
    have hdrop : ∀ given rest,
        (LineChain.run (⟨.trimTrailing, given⟩ :: rest) line).1 = .ok none := by
      intro given rest
      rw [run_of_elided rfl (breach?_trimmed hbreach) (htrimmed.trans hblank)]
    cases h with
    | trimFirst given seen => exact hdrop given _
    | limitFirst given seen =>
      rw [apply_eq, run_limit hbreach helided]
      by_cases hrun : line.isBlank ∧ max ≤ blankRun seen
      · rw [if_pos hrun]
        rfl
      · rw [if_neg hrun]
        exact hdrop given []
  | false =>
    have hkeep : ∀ seen, ¬ (line.isBlank ∧ max ≤ blankRun seen) := by simp [hblank]
    have hkeep' : ∀ seen, ¬ (line.trimmed.isBlank ∧ max ≤ blankRun seen) := by simp [hblank]
    rw [hblank] at htrimmed
    cases h with
    | trimFirst given seen =>
      rw [apply_eq, run_trim hbreach htrimmed, run_limit (breach?_trimmed hbreach) htrimmed,
        if_neg (hkeep' seen)]
      rfl
    | limitFirst given seen =>
      rw [apply_eq, run_limit hbreach helided, if_neg (hkeep seen), run_trim hbreach htrimmed]
      rfl

theorem applyAll_cons {kept : Option Line} (h : (chain.apply line).1 = .ok kept) :
    chain.applyAll (line :: lines) =
      ((chain.apply line).2.applyAll lines).map (kept.toList ++ ·) := by
  rw [applyAll]
  generalize chain.apply line = r at h ⊢
  obtain ⟨result, after⟩ := r
  obtain rfl : result = .ok kept := h
  rfl

theorem Tidies.applyAll_cons (h : Tidies max count chain) (hbreach : breach? line = none)
    (hend : line.terminator ≠ [])
    (hrest : ∀ {count chain}, Tidies max count chain →
      chain.applyAll lines = .ok (Line.tidy max count lines)) :
    chain.applyAll (line :: lines) = .ok (Line.tidy max count (line :: lines)) := by
  have hafter := h.apply hbreach hend
  rw [LineChain.applyAll_cons hafter.1, hrest hafter.2]
  cases hblank : line.isBlank with
  | false => simp [Line.tidy_of_not_blank hblank, Except.map]
  | true =>
    by_cases hdrop : max ≤ count
    · rw [Line.tidy_of_dropped hblank (by omega)]
      simp [hdrop, Except.map]
    · rw [Line.tidy_of_kept hblank (by omega) hend]
      simp [hdrop, Except.map]

theorem Tidies.applyAll (h : Tidies max count chain) (hlines : Line.Splits text lines) :
    chain.applyAll lines = .ok (Line.tidy max count lines) := by
  have hbreach := fun line hline => (hlines.acceptable line hline).1
  induction hlines generalizing chain count with
  | nil => rfl
  | @last content hne hcontent =>
    have hlast := h.apply_last (hbreach _ List.mem_cons_self) rfl (by simp [Line.isElided, hne])
    rw [LineChain.applyAll_cons hlast]
    cases hblank : Line.isBlank ⟨content, []⟩ with
    | true =>
      rw [Line.tidy_of_dropped hblank (by simp)]
      rfl
    | false =>
      rw [Line.tidy_of_not_blank hblank]
      rfl
  | feed hcontent hend hrest ih =>
    rw [List.forall_mem_cons] at hbreach
    exact h.applyAll_cons hbreach.1 (by simp) fun hafter => ih hafter hbreach.2
  | returnFeed hcontent hrest ih =>
    rw [List.forall_mem_cons] at hbreach
    exact h.applyAll_cons hbreach.1 (by simp) fun hafter => ih hafter hbreach.2

end LineChain

namespace LineWriter

theorem reset_run (w : LineWriter) (buffers : List (List UInt8)) :
    (w.run buffers).2.chain.reset = w.chain.reset := by
  have hwrite := reset_writeAll w buffers
  unfold run
  generalize w.writeAll buffers = r at hwrite ⊢
  obtain ⟨_ | _, after⟩ := r
  · exact hwrite
  · have hfinish := reset_finish after
    dsimp only
    generalize after.finish = r at hfinish ⊢
    obtain ⟨_ | _, last⟩ := r
    · exact hfinish.trans hwrite
    · exact hfinish.trans hwrite

theorem run_of_applyAll {w : LineWriter} (hchain : w.chain.isEmpty = false)
    (hsink : w.sink.limit = none) (hpartly : w.partly = []) (hkept : w.kept = [])
    {buffers : List (List UInt8)} {text : List Char} (hbuffers : buffers.flatten = Utf8.encode text)
    {lines kept : List Line} (hlines : Line.Splits text lines)
    (hall : w.chain.applyAll lines = .ok kept) :
    (w.run buffers).1 = .ok () ∧
      (w.run buffers).2.sink.bytes = w.sink.bytes ++ Utf8.encode (kept.flatMap Line.text) := by
  have hdecode : Utf8.decodeFrom [] buffers.flatten = some (text, []) := by
    rw [hbuffers]
    simpa using Utf8.decodeFrom_encode_append text Utf8.incomplete_nil
  have hrun := run_eq_outcome hchain hpartly hkept hdecode
  rw [outcome_of_unlimited hsink hlines, hall, Prod.mk.injEq] at hrun
  exact ⟨hrun.1, by rw [hrun.2, Sink.add_bytes]⟩

/-- Trimming and limiting come to the same in either order. What they leave of a text are lines that
do not end in a blank, at most `max` blank ones in a row, among them the lines of the text that are
not blank; and a second pass changes nothing. -/
theorem run_tidies (max : Nat) (path : Path) (text : List Char) (lines : List Line)
    (hlines : Line.Splits text lines) (buffers : List (List UInt8))
    (hbuffers : buffers.flatten = Utf8.encode text) :
    ∃ out kept, Line.Splits out kept ∧
      (∀ chain ∈ [LineChain.ofList [.trimTrailing, .limitEmpty max],
          LineChain.ofList [.limitEmpty max, .trimTrailing]],
        let first := ({ sink := {}, chain, path } : LineWriter).run buffers
        first.1 = .ok () ∧ first.2.sink.bytes = Utf8.encode out ∧
        ∀ again : List (List UInt8), again.flatten = first.2.sink.bytes →
          let second := ({ sink := {}, chain := first.2.chain.reset, path } : LineWriter).run again
          second.1 = .ok () ∧ second.2.sink.bytes = first.2.sink.bytes) ∧
      (∀ line ∈ kept, ∀ c, line.content.getLast? = some c → Text.isBlank c = false) ∧
      (∀ blank, blank <:+: kept → (∀ line ∈ blank, line.isBlank = true) → blank.length ≤ max) ∧
      kept.filter (fun line => !line.isBlank) =
        (lines.filter fun line => !line.isBlank).map Line.trimmed := by
  have hsplits := Line.splits_tidy hlines max 0
  refine ⟨(Line.tidy max 0 lines).flatMap Line.text, Line.tidy max 0 lines, hsplits, ?_, ?_, ?_,
    Line.filter_tidy max 0 lines⟩
  · intro chain hmem
    have hreset : chain.reset = chain ∧ chain.isEmpty = false ∧ chain.Tidies max 0 := by
      rw [List.mem_pair] at hmem
      rcases hmem with rfl | rfl
      · exact ⟨rfl, rfl, .trimFirst [] []⟩
      · exact ⟨rfl, rfl, .limitFirst [] []⟩
    obtain ⟨hreset, hempty, htidies⟩ := hreset
    intro first
    have hfirst := run_of_applyAll (w := { sink := {}, chain, path }) hempty rfl rfl rfl hbuffers
      hlines (htidies.applyAll hlines)
    refine ⟨hfirst.1, hfirst.2, fun again hagain => ?_⟩
    have hchain : first.2.chain.reset = chain := (reset_run _ buffers).trans hreset
    have hsame := htidies.applyAll hsplits
    rw [Line.tidy_tidy (Nat.le_refl 0)] at hsame
    rw [hchain]
    have hsecond := run_of_applyAll (w := { sink := {}, chain, path }) hempty rfl rfl rfl
      (hagain.trans hfirst.2) hsplits hsame
    exact ⟨hsecond.1, hsecond.2.trans hfirst.2.symm⟩
  · intro line hline c hc
    obtain ⟨source, -, rfl⟩ := List.mem_map.mp ((Line.tidy_sublist max 0 lines).subset hline)
    exact Text.isBlank_of_getLast?_trimEnd hc
  · intro blank hinfix hblank
    exact Line.length_blank_of_infix hblank hinfix

/-- Of two blank lines after a line with blanks at its end one is left, and nothing of a last line
that holds only a tab. -/
theorem run_tidies_tab :
    let text := "a \r\n \n\n\t".toList
    let lines : List Line :=
      [⟨['a', ' '], ['\r', '\n']⟩, ⟨[' '], ['\n']⟩, ⟨[], ['\n']⟩, ⟨['\t'], []⟩]
    let w : LineWriter :=
      { sink := {}, chain := .ofList [.limitEmpty 1, .trimTrailing], path := ⟨"out.txt"⟩ }
    Line.Splits text lines ∧ (w.run [Utf8.encode text]).1 = .ok () ∧
      (w.run [Utf8.encode text]).2.sink.bytes = Utf8.encode "a\r\n\n".toList := by
  intro text lines w
  have hlines : Line.Splits text lines :=
    @Line.Splits.returnFeed ['a', ' '] _ _ (by decide)
      (@Line.Splits.feed [' '] _ _ (by decide) (by decide)
        (@Line.Splits.feed [] _ _ (by decide) (by decide) (.last (by decide) (by decide))))
  obtain ⟨out, kept, -, hruns, -⟩ := run_tidies 1 ⟨"out.txt"⟩ text lines hlines
    [Utf8.encode text] (by simp)
  have hrun := hruns w.chain (by simp [w])
  exact ⟨hlines, hrun.1, by decide⟩

end LineWriter

end SchemaForge
