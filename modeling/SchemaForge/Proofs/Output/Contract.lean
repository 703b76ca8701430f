import Mathlib.Data.List.ReduceOption
import SchemaForge.Proofs.Output.Limiting

/-! What output is made of, whatever the processors of a chain return. Every result is checked
before the next processor sees it, so all that is written are lines, at most one for each line of
the text; and the first result that is no line ends the run, before anything of it is written. -/

namespace SchemaForge

namespace Line

variable {line : Line}

/-- A line that leaves a chain: content without a line feed, a terminator, and not both empty. -/
structure Proper (line : Line) : Prop where
  content : '\n' ∉ line.content
  terminator : line.terminator = [] ∨ line.terminator = ['\n'] ∨ line.terminator = ['\r', '\n']
  text : line.text ≠ []

theorem text_eq_nil_iff : line.text = [] ↔ line = elided := by
  obtain ⟨content, terminator⟩ := line
  simp [Line.text, elided]

theorem isElided_iff : line.isElided = true ↔ line = elided := by
  obtain ⟨content, terminator⟩ := line
  simp [isElided, elided]

/-- A processor may return a proper line, or the line that stands for none. -/
theorem breach?_eq_none_iff : LineChain.breach? line = none ↔ line.Proper ∨ line = elided := by
  have hcheck : LineChain.breach? line = none ↔
      (line.terminator = [] ∨ line.terminator = ['\n'] ∨ line.terminator = ['\r', '\n']) ∧
        '\n' ∉ line.content := by
    unfold LineChain.breach?
    split
    · simp_all [LineChain.isTerminator]
    · rename_i hterminator
      have hterminator : LineChain.isTerminator line.terminator = true := by
        simpa using hterminator
      simp only [LineChain.isTerminator, Bool.or_eq_true, decide_eq_true_eq, or_assoc]
        at hterminator
      split <;> simp_all
  rw [hcheck]
  constructor
  · rintro ⟨hterminator, hcontent⟩
    by_cases htext : line.text = []
    · exact Or.inr (text_eq_nil_iff.mp htext)
    · exact Or.inl ⟨hcontent, hterminator, htext⟩
  · rintro (h | rfl)
    · exact ⟨h.terminator, h.content⟩
    · exact ⟨Or.inl rfl, List.not_mem_nil⟩

/-- Of a proper line only the terminator holds a line feed. -/
theorem Proper.count_feed_le (h : line.Proper) : line.text.count '\n' ≤ 1 := by
  rw [Line.text, List.count_append, List.count_eq_zero.mpr h.content]
  rcases h.terminator with hend | hend | hend <;> rw [hend] <;> decide

theorem count_feed_le {pieces : List (Option Line)}
    (h : ∀ piece, some piece ∈ pieces → piece.Proper) :
    (pieces.reduceOption.flatMap Line.text).count '\n' ≤ pieces.length := by
  induction pieces with
  | nil => exact Nat.zero_le _
  | cons piece rest ih =>
    have hrest := ih fun piece hmem => h piece (List.mem_cons_of_mem _ hmem)
    cases piece with
    | none =>
      rw [List.reduceOption_cons_of_none, List.length_cons]
      omega
    | some piece =>
      have hpiece := (h piece List.mem_cons_self).count_feed_le
      rw [List.reduceOption_cons_of_some, List.flatMap_cons, List.count_append, List.length_cons]
      omega

end Line

namespace LineChain

variable {chain : LineChain} {stages : List LineStage} {stage : LineStage} {line out : Line}
  {lines : List Line} {pieces : List (Option Line)} {result : Except GenerationError Unit}
  {name : String}

/-- A stage returns something else than a line or no line, and all stages before it have passed a
line on. -/
inductive Offends : List LineStage → Line → String → Line → Prop where
  | here {stage : LineStage} {rest : List LineStage} {line out : Line}
      (hprocess : stage.processor.process stage.seen line = .ok out) (hproper : ¬ out.Proper)
      (hsome : out ≠ .elided) : Offends (stage :: rest) line stage.processor.name out
  | later {stage : LineStage} {rest : List LineStage} {line passed out : Line} {name : String}
      (hprocess : stage.processor.process stage.seen line = .ok passed) (hproper : passed.Proper)
      (hrest : Offends rest passed name out) : Offends (stage :: rest) line name out

theorem Offends.run (h : Offends stages line name out) : ∃ message, breach? out = some message ∧
    (LineChain.run stages line).1 = .error (.contract name message) := by
  induction h with
  | here hprocess hproper hsome =>
    obtain ⟨message, hmessage⟩ : ∃ message, breach? _ = some message :=
      Option.ne_none_iff_exists'.mp (mt Line.breach?_eq_none_iff.mp (not_or.mpr ⟨hproper, hsome⟩))
    exact ⟨message, hmessage, congrArg Prod.fst (run_of_breach hprocess hmessage)⟩
  | @later stage rest line passed out name hprocess hproper hrest ih =>
    obtain ⟨message, hmessage, hrun⟩ := ih
    have hkept : passed.isElided = false := by
      rw [Bool.eq_false_iff, Ne, Line.isElided_iff, ← Line.text_eq_nil_iff]
      exact hproper.text
    refine ⟨message, hmessage, ?_⟩
    rw [run_of_kept hprocess (Line.breach?_eq_none_iff.mpr (Or.inl hproper)) hkept]
    exact hrun

theorem proper_of_run (h : stages = [] → line.Proper)
    (hrun : (LineChain.run stages line).1 = .ok (some out)) : out.Proper := by
  induction stages generalizing line with
  | nil =>
    obtain rfl : line = out := by simpa [LineChain.run] using hrun
    exact h rfl
  | cons stage rest ih =>
    unfold LineChain.run at hrun
    dsimp only at hrun
    split at hrun
    · cases hrun
    · split at hrun
      · cases hrun
      · rename_i passed _ hbreach
        split at hrun
        · cases hrun
        · rename_i hkept
          rw [Line.isElided_iff] at hkept
          exact ih (fun _ => (Line.breach?_eq_none_iff.mp hbreach).resolve_right hkept) hrun

theorem proper_of_apply (hchain : chain.isEmpty = false)
    (happly : (chain.apply line).1 = .ok (some out)) : out.Proper := by
  refine proper_of_run (fun hnil => ?_) happly
  rw [isEmpty, hnil] at hchain
  cases hchain

def after (chain : LineChain) : List Line → LineChain
  | [] => chain
  | line :: rest => (chain.apply line).2.after rest

/-- What becomes of lines one after the other, until all are through or one fails. Where the
destination may refuse, at most the content of a line is written before it does. -/
inductive Runs (refuses : Prop) :
    LineChain → List Line → List (Option Line) → Except GenerationError Unit → Prop where
  | done {chain : LineChain} : Runs refuses chain [] [] (.ok ())
  | fails {chain : LineChain} {line : Line} {rest : List Line} {e : GenerationError}
      (happly : (chain.apply line).1 = .error e) : Runs refuses chain (line :: rest) [] (.error e)
  | refused {chain : LineChain} {line out : Line} {rest : List Line} {piece : Option Line}
      {e : GenerationError} (hrefuses : refuses) (happly : (chain.apply line).1 = .ok (some out))
      (hpiece : ∀ part ∈ piece, part = ⟨out.content, []⟩ ∧ out.content ≠ []) :
      Runs refuses chain (line :: rest) [piece] (.error e)
  | next {chain : LineChain} {line : Line} {rest : List Line} {piece : Option Line}
      {pieces : List (Option Line)} {result : Except GenerationError Unit}
      (happly : (chain.apply line).1 = .ok piece)
      (hrest : Runs refuses (chain.apply line).2 rest pieces result) :
      Runs refuses chain (line :: rest) (piece :: pieces) result

namespace Runs

variable {refuses : Prop}

theorem length_le (h : chain.Runs refuses lines pieces result) : pieces.length ≤ lines.length := by
  induction h with
  | done => exact Nat.le_refl 0
  | fails happly => exact Nat.zero_le _
  | refused hrefuses happly hpiece => exact Nat.succ_le_succ (Nat.zero_le _)
  | next happly hrest ih => exact Nat.succ_le_succ ih

theorem proper (h : chain.Runs refuses lines pieces result) (hchain : chain.isEmpty = false) :
    ∀ piece, some piece ∈ pieces → piece.Proper := by
  induction h with
  | done => exact fun _ hmem => absurd hmem List.not_mem_nil
  | fails happly => exact fun _ hmem => absurd hmem List.not_mem_nil
  | refused hrefuses happly hpiece =>
    intro piece hmem
    obtain ⟨rfl, hsome⟩ := hpiece piece (List.mem_singleton.mp hmem).symm
    exact ⟨(proper_of_apply hchain happly).content, Or.inl rfl, by simpa [Line.text] using hsome⟩
  | next happly hrest ih =>
    intro piece hmem
    rcases List.mem_cons.mp hmem with rfl | hmem
    · exact proper_of_apply hchain happly
    · exact ih ((isEmpty_apply _ _).trans hchain) piece hmem

end Runs

end LineChain

namespace Sink

variable {sink sink' : Sink} {bytes : List UInt8}

theorem write_eq_some (h : sink.write bytes = some sink') :
    sink'.bytes = sink.bytes ++ bytes ∧ sink'.limit = sink.limit := by
  unfold write at h
  split at h
  · rename_i hempty
    cases h
    rw [List.isEmpty_iff.mp hempty, List.append_nil]
    exact ⟨rfl, rfl⟩
  · split at h
    · split at h
      · cases h
      · cases h
        exact ⟨rfl, rfl⟩
    · cases h
      exact ⟨rfl, rfl⟩

theorem write_eq_none (h : sink.write bytes = none) : sink.limit ≠ none := by
  intro hlimit
  rw [write_of_unlimited hlimit] at h
  cases h

end Sink

namespace LineWriter

variable {w : LineWriter} {line : Line} {lines : List Line}

/-- A line is written, or the destination has refused its content or its terminator. -/
theorem writeLine_piece (w : LineWriter) (line : Line) :
    (w.writeLine line).2.sink.limit = w.sink.limit ∧
      match (w.writeLine line).1 with
      | .ok () => (w.writeLine line).2.sink.bytes = w.sink.bytes ++ Utf8.encode line.text
      | .error _ => w.sink.limit ≠ none ∧ ∃ piece : Option Line,
          (∀ part ∈ piece, part = ⟨line.content, []⟩ ∧ line.content ≠ []) ∧
          (w.writeLine line).2.sink.bytes =
            w.sink.bytes ++ Utf8.encode (piece.toList.flatMap Line.text) := by
  unfold writeLine
  cases hcontent : w.sink.write (Utf8.encode line.content) with
  | none => exact ⟨rfl, Sink.write_eq_none hcontent, none, by simp, by simp⟩
  | some sink =>
    obtain ⟨hbytes, hlimit⟩ := Sink.write_eq_some hcontent
    dsimp only
    cases hterminator : sink.write (Utf8.encode line.terminator) with
    | none =>
      refine ⟨hlimit, hlimit ▸ Sink.write_eq_none hterminator, ?_⟩
      by_cases hempty : line.content = []
      · exact ⟨none, by simp, by simp [hbytes, hempty]⟩
      · exact ⟨some ⟨line.content, []⟩, by simpa using hempty, by simp [hbytes, Line.text]⟩
    | some sink' =>
      obtain ⟨hmore, hsame⟩ := Sink.write_eq_some hterminator
      exact ⟨hsame.trans hlimit, by simp [hmore, hbytes, Line.text]⟩

/-- A line that is put has become what the chain makes of it; one that fails has left no piece, or
the destination has refused it. -/
theorem putLine_piece (w : LineWriter) (line : Line) :
    (w.putLine line).2.chain = (w.chain.apply line).2 ∧
      (w.putLine line).2.sink.limit = w.sink.limit ∧
      match (w.putLine line).1 with
      | .ok () => ∃ piece : Option Line, (w.chain.apply line).1 = .ok piece ∧
          (w.putLine line).2.sink.bytes =
            w.sink.bytes ++ Utf8.encode (piece.toList.flatMap Line.text)
      | .error e => (w.chain.apply line).1 = .error e ∧
            (w.putLine line).2.sink.bytes = w.sink.bytes ∨
          w.sink.limit ≠ none ∧ ∃ (out : Line) (piece : Option Line),
            (w.chain.apply line).1 = .ok (some out) ∧
            (∀ part ∈ piece, part = ⟨out.content, []⟩ ∧ out.content ≠ []) ∧
            (w.putLine line).2.sink.bytes =
              w.sink.bytes ++ Utf8.encode (piece.toList.flatMap Line.text) := by
  unfold putLine
  generalize w.chain.apply line = r
  obtain ⟨_ | _ | out, chain⟩ := r
  · exact ⟨rfl, rfl, Or.inl ⟨rfl, rfl⟩⟩
  · exact ⟨rfl, rfl, none, rfl, by simp⟩
  · dsimp only
    obtain ⟨hlimit, hwrite⟩ := writeLine_piece { w with chain } out
    refine ⟨(writeLine_frame { w with chain } out).1, hlimit, ?_⟩
    generalize writeLine { w with chain } out = r at hwrite ⊢
    obtain ⟨_ | _, after⟩ := r
    · obtain ⟨hrefuses, piece, hpiece, hbytes⟩ := hwrite
      exact Or.inr ⟨hrefuses, out, piece, rfl, hpiece, hbytes⟩
    · exact ⟨some out, rfl, by simpa using hwrite⟩

/-- Lines become pieces, up to the first that fails. If the chain fails at a line that is reached,
that is where the pieces end. -/
theorem putLines_pieces (w : LineWriter) (lines : List Line) :
    ∃ pieces, w.chain.Runs (w.sink.limit ≠ none) lines pieces (w.putLines lines).1 ∧
      (w.putLines lines).2.sink.bytes =
        w.sink.bytes ++ Utf8.encode (pieces.reduceOption.flatMap Line.text) ∧
      ∀ i line e, (w.putLines (lines.take i)).1 = .ok () → lines[i]? = some line →
        ((w.chain.after (lines.take i)).apply line).1 = .error e →
        pieces.length = i ∧ (w.putLines lines).1 = .error e := by
  induction lines generalizing w with
  | nil => exact ⟨[], .done, by simp [putLines], fun i line e _ hline => by cases hline⟩
  | cons line rest ih =>
    obtain ⟨hchain, hlimit, hput⟩ := putLine_piece w line
    -- A line further on is reached only through the first.
    have hlater : ∀ i, (w.putLines ((line :: rest).take (i + 1))).1 = .ok () →
        (w.putLine line).1 = .ok () ∧ ((w.putLine line).2.putLines (rest.take i)).1 = .ok () := by
      intro i hok
      rw [List.take_succ_cons, putLines] at hok
      generalize w.putLine line = r at hok ⊢
      obtain ⟨_ | _, after⟩ := r
      · cases hok
      · exact ⟨rfl, hok⟩
    unfold putLines
    generalize w.putLine line = r at hchain hlimit hput hlater ⊢
    obtain ⟨e | _, after⟩ := r
    · rcases hput with ⟨happly, hbytes⟩ | ⟨hrefuses, out, piece, happly, hpiece, hbytes⟩
      · refine ⟨[], .fails happly, by simpa using hbytes, fun i other e' hok hline hfails => ?_⟩
        cases i with
        | zero =>
          obtain rfl : line = other := Option.some.inj hline
          exact ⟨rfl, congrArg _ (Except.error.inj (happly.symm.trans hfails))⟩
        | succ i => cases (hlater i hok).1
      · refine ⟨[piece], .refused hrefuses happly hpiece, ?_, fun i other e' hok hline hfails => ?_⟩
        · cases piece <;> exact hbytes
        · cases i with
          | zero =>
            obtain rfl : line = other := Option.some.inj hline
            cases happly.symm.trans hfails
          | succ i => cases (hlater i hok).1
    · obtain ⟨piece, happly, hbytes⟩ := hput
      obtain ⟨pieces, hruns, hmore, hstops⟩ := ih after
      rw [hchain, hlimit] at hruns
      refine ⟨piece :: pieces, .next happly hruns, ?_, fun i other e hok hline hfails => ?_⟩
      · dsimp only
        rw [hmore, hbytes]
        cases piece <;> simp
      · cases i with
        | zero =>
          obtain rfl : line = other := Option.some.inj hline
          cases happly.symm.trans hfails
        | succ i =>
          rw [hchain] at hstops
          obtain ⟨hlength, hresult⟩ := hstops i other e (hlater i hok).2 hline hfails
          exact ⟨congrArg Nat.succ hlength, hresult⟩

/-- Whatever the processors return, what is written are proper lines, at most one for each line of
the text and in their order, so it has at most as many line feeds as the text has lines. When a
processor returns something else for a line that is reached, the run ends there with its name, and
the pieces are those of the lines before. -/
theorem run_meets_contract (chain : LineChain) (hchain : chain.isEmpty = false) (sink : Sink)
    (path : Path) (text : List Char) (lines : List Line) (hlines : Line.Splits text lines)
    (buffers : List (List UInt8)) (hbuffers : buffers.flatten = Utf8.encode text) :
    let w : LineWriter := { sink, chain, path }
    let done := w.run buffers
    ∃ pieces result, chain.Runs (sink.limit ≠ none) lines pieces result ∧
      done.1 = result.mapError .cause ∧
      pieces.length ≤ lines.length ∧ (∀ piece, some piece ∈ pieces → piece.Proper) ∧
      done.2.sink.bytes =
        sink.bytes ++ Utf8.encode (pieces.reduceOption.flatMap Line.text) ∧
      (pieces.reduceOption.flatMap Line.text).count '\n' ≤ lines.length ∧
      ∀ i line name out, (w.putLines (lines.take i)).1 = .ok () → lines[i]? = some line →
        LineChain.Offends (chain.after (lines.take i)).stages line name out →
        pieces.length = i ∧ ∃ message, LineChain.breach? out = some message ∧
          done.1 = .error (.cause (.contract name message)) := by
  intro w done
  have hdecode : Utf8.decodeFrom [] buffers.flatten = some (text, []) := by
    rw [hbuffers]
    simpa using Utf8.decodeFrom_encode_append text Utf8.incomplete_nil
  obtain ⟨hresult, hsink⟩ : done.1 = (w.putLines lines).1.mapError .cause ∧
      done.2.sink = (w.putLines lines).2.sink := by
    have hrun := run_eq_outcome (w := w) hchain rfl rfl hdecode
    rw [outcome_nil, hlines.split_eq] at hrun
    generalize w.putLines lines = r at hrun ⊢
    obtain ⟨_ | _, after⟩ := r
    · exact Prod.mk.inj hrun
    · exact Prod.mk.inj hrun
  obtain ⟨pieces, hruns, hbytes, hstops⟩ := putLines_pieces w lines
  have hproper := hruns.proper hchain
  refine ⟨pieces, _, hruns, hresult, hruns.length_le, hproper, hsink ▸ hbytes,
    (Line.count_feed_le hproper).trans hruns.length_le, ?_⟩
  intro i line name out hreached hline hoffends
  obtain ⟨message, hmessage, hfails⟩ := hoffends.run
  obtain ⟨hlength, herror⟩ := hstops i line _ hreached hline hfails
  exact ⟨hlength, message, hmessage, by rw [hresult, herror]; rfl⟩

/-- A processor that ends every line after the first with a tab is stopped at the second, after one
that trims, and the third is not reached. -/
theorem run_meets_contract_tab :
    let tabs : LineProcessor :=
      ⟨"tabs", fun seen line => .ok (if seen.isEmpty then line else ⟨line.content, ['\t']⟩)⟩
    let chain := LineChain.ofList [.trimTrailing, tabs]
    let text := "a \nb\nc".toList
    let lines : List Line := [⟨['a', ' '], ['\n']⟩, ⟨['b'], ['\n']⟩, ⟨['c'], []⟩]
    let w : LineWriter := { sink := {}, chain, path := ⟨"out.txt"⟩ }
    let done := w.run [Utf8.encode ['a', ' '], Utf8.encode "\nb\nc".toList]
    chain.isEmpty = false ∧ Line.Splits text lines ∧
      (w.putLines (lines.take 1)).1 = .ok () ∧
      LineChain.Offends (chain.after (lines.take 1)).stages ⟨['b'], ['\n']⟩ "tabs"
        ⟨['b'], ['\t']⟩ ∧
      done.1 = .error (.cause (.contract "tabs" "\"\\t\" is not a line terminator")) ∧
      done.2.sink.bytes = Utf8.encode ['a', '\n'] := by
  intro tabs chain text lines w done
  have hchain : chain.isEmpty = false := rfl
  have hlines : Line.Splits text lines :=
    @Line.Splits.feed ['a', ' '] _ _ (by decide) (by decide)
      (@Line.Splits.feed ['b'] _ _ (by decide) (by decide) (.last (by decide) (by decide)))
  have hreached : (w.putLines (lines.take 1)).1 = .ok () := by decide
  have hoffends : LineChain.Offends (chain.after (lines.take 1)).stages ⟨['b'], ['\n']⟩ "tabs"
      ⟨['b'], ['\t']⟩ := by
    have hpassed : LineProcessor.trimTrailing.process [⟨['a', ' '], ['\n']⟩] ⟨['b'], ['\n']⟩ =
        .ok ⟨['b'], ['\n']⟩ := rfl
    refine .later hpassed ?_ (.here rfl ?_ (by decide))
    · exact ⟨by decide, by decide, by decide⟩
    · exact fun h => absurd h.terminator (by decide)
  obtain ⟨pieces, result, -, -, -, -, -, -, hstops⟩ :=
    run_meets_contract chain hchain {} ⟨"out.txt"⟩ text lines hlines
      [Utf8.encode ['a', ' '], Utf8.encode "\nb\nc".toList] (by decide)
  obtain ⟨-, message, hmessage, hresult⟩ := hstops 1 _ _ _ hreached rfl hoffends
  refine ⟨hchain, hlines, hreached, hoffends, ?_, ?_⟩
  · obtain rfl : message = "\"\\t\" is not a line terminator" :=
      Option.some.inj (hmessage.symm.trans (by decide))
    exact hresult
  · decide

end LineWriter

end SchemaForge
