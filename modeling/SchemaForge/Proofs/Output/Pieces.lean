import SchemaForge.Output.Writer
import SchemaForge.Proofs.Output.Splitting
import SchemaForge.Proofs.Text.Utf8

/-! Output does not depend on the pieces in which it arrives. Bytes may be cut inside a character,
between a carriage return and its line feed, or nowhere; what reaches the destination and how the
run ends follow from the text alone, and on success the destination holds the lines that the chain
keeps of it. -/

namespace SchemaForge

namespace LineChain

/-- The lines kept of those that go through a chain one after the other, up to the first
failure. -/
def applyAll (chain : LineChain) : List Line → Except GenerationError (List Line)
  | [] => .ok []
  | line :: rest =>
    match chain.apply line with
    | (.error e, _) => .error e
    | (.ok kept, chain) => (chain.applyAll rest).map (kept.toList ++ ·)

theorem length_run (stages : List LineStage) (line : Line) :
    (run stages line).2.length = stages.length := by
  induction stages generalizing line with
  | nil => rfl
  | cons stage rest ih =>
    unfold run
    dsimp only
    split
    · rfl
    · split
      · rfl
      · split
        · rfl
        · simp [ih]

theorem isEmpty_apply (chain : LineChain) (line : Line) :
    (chain.apply line).2.isEmpty = chain.isEmpty := by
  unfold apply isEmpty
  rw [Bool.eq_iff_iff, List.isEmpty_iff_length_eq_zero, List.isEmpty_iff_length_eq_zero]
  exact iff_of_eq (congrArg (· = 0) (length_run chain.stages line))

/-- Every processor gives back the line it is given, whatever it has seen before. -/
def Unchanging (chain : LineChain) : Prop :=
  ∀ stage ∈ chain.stages, ∀ seen line, stage.processor.process seen line = .ok line

theorem apply_of_unchanging {chain : LineChain} (h : chain.Unchanging) {line : Line}
    (hbreach : breach? line = none) (helided : line.isElided = false) :
    (chain.apply line).1 = .ok (some line) ∧ (chain.apply line).2.Unchanging := by
  obtain ⟨stages⟩ := chain
  unfold apply Unchanging at *
  induction stages with
  | nil => exact ⟨rfl, h⟩
  | cons stage rest ih =>
    obtain ⟨hstage, hrest⟩ := List.forall_mem_cons.mp h
    obtain ⟨hresult, hkept⟩ := ih hrest
    simp only [run, hstage, hbreach, helided, Bool.false_eq_true, if_false] at hresult hkept ⊢
    exact ⟨hresult, List.forall_mem_cons.mpr ⟨hstage, hkept⟩⟩

theorem applyAll_of_unchanging {chain : LineChain} (h : chain.Unchanging) {lines : List Line}
    (hlines : ∀ line ∈ lines, breach? line = none ∧ line.isElided = false) :
    chain.applyAll lines = .ok lines := by
  induction lines generalizing chain with
  | nil => rfl
  | cons line rest ih =>
    obtain ⟨⟨hbreach, helided⟩, hrest⟩ := List.forall_mem_cons.mp hlines
    obtain ⟨hresult, hafter⟩ := apply_of_unchanging h hbreach helided
    unfold applyAll
    rcases happly : chain.apply line with ⟨result, after⟩
    rw [happly] at hresult hafter
    obtain rfl : result = .ok (some line) := hresult
    have hall : after.applyAll rest = .ok rest := ih hafter hrest
    simp [hall, Except.map]

end LineChain

namespace Sink

def add (sink : Sink) (bytes : List UInt8) : Sink :=
  { sink with bytes := sink.bytes ++ bytes }

@[simp] theorem add_bytes (sink : Sink) (bytes : List UInt8) :
    (sink.add bytes).bytes = sink.bytes ++ bytes := rfl

@[simp] theorem add_limit (sink : Sink) (bytes : List UInt8) :
    (sink.add bytes).limit = sink.limit := rfl

@[simp] theorem add_nil (sink : Sink) : sink.add [] = sink := by
  simp [add]

@[simp] theorem add_add (sink : Sink) (first second : List UInt8) :
    (sink.add first).add second = sink.add (first ++ second) := by
  simp [add]

theorem write_of_unlimited {sink : Sink} (h : sink.limit = none) (bytes : List UInt8) :
    sink.write bytes = some (sink.add bytes) := by
  unfold write
  split
  · rename_i hempty
    rw [List.isEmpty_iff.mp hempty, add_nil]
  · simp [h, add]

end Sink

namespace LineWriter

/-- Takes a whole output: every buffer and then the line left over, up to the first failure. -/
def run (w : LineWriter) (buffers : List (List UInt8)) : Except WriteError Unit × LineWriter :=
  match w.writeAll buffers with
  | (.ok (), w) =>
    match w.finish with
    | (.ok (), w) => (.ok (), w)
    | (.error e, w) => (.error (.cause e), w)
  | failed => failed

def carrying (w : LineWriter) (partly : List Char) (kept : List UInt8) : LineWriter :=
  { w with partly, kept }

@[simp] theorem carrying_sink (w : LineWriter) (partly : List Char) (kept : List UInt8) :
    (w.carrying partly kept).sink = w.sink := rfl

@[simp] theorem carrying_chain (w : LineWriter) (partly : List Char) (kept : List UInt8) :
    (w.carrying partly kept).chain = w.chain := rfl

@[simp] theorem carrying_partly (w : LineWriter) (partly : List Char) (kept : List UInt8) :
    (w.carrying partly kept).partly = partly := rfl

@[simp] theorem carrying_kept (w : LineWriter) (partly : List Char) (kept : List UInt8) :
    (w.carrying partly kept).kept = kept := rfl

@[simp] theorem carrying_self (w : LineWriter) : w.carrying w.partly w.kept = w := rfl

/-! Finished lines go through without a look at the unfinished input. -/

theorem writeLine_carrying (w : LineWriter) (line : Line) (partly : List Char)
    (kept : List UInt8) :
    (w.carrying partly kept).writeLine line =
      ((w.writeLine line).1, (w.writeLine line).2.carrying partly kept) := by
  unfold writeLine
  rw [carrying_sink]
  cases w.sink.write (Utf8.encode line.content) with
  | none => rfl
  | some sink =>
    cases hterminator : sink.write (Utf8.encode line.terminator) <;>
      simp [hterminator, carrying]

theorem putLine_carrying (w : LineWriter) (line : Line) (partly : List Char)
    (kept : List UInt8) :
    (w.carrying partly kept).putLine line =
      ((w.putLine line).1, (w.putLine line).2.carrying partly kept) := by
  unfold putLine
  rw [carrying_chain]
  rcases w.chain.apply line with ⟨result, chain⟩
  cases result with
  | error e => rfl
  | ok out =>
    cases out with
    | none => rfl
    | some line => exact writeLine_carrying { w with chain } line partly kept

theorem putLines_carrying (w : LineWriter) (lines : List Line) (partly : List Char)
    (kept : List UInt8) :
    (w.carrying partly kept).putLines lines =
      ((w.putLines lines).1, (w.putLines lines).2.carrying partly kept) := by
  induction lines generalizing w with
  | nil => rfl
  | cons line rest ih =>
    simp only [putLines, putLine_carrying]
    rcases w.putLine line with ⟨result, after⟩
    cases result with
    | error e => rfl
    | ok _ => exact ih after

theorem putLines_append (w : LineWriter) (first second : List Line) :
    w.putLines (first ++ second) =
      match w.putLines first with
      | (.ok (), after) => after.putLines second
      | failed => failed := by
  induction first generalizing w with
  | nil => rfl
  | cons line rest ih =>
    simp only [List.cons_append, putLines]
    rcases w.putLine line with ⟨result, after⟩
    cases result with
    | error e => rfl
    | ok _ => exact ih after

theorem writeLine_frame (w : LineWriter) (line : Line) :
    (w.writeLine line).2.chain = w.chain ∧ (w.writeLine line).2.path = w.path := by
  unfold writeLine
  cases w.sink.write (Utf8.encode line.content) with
  | none => exact ⟨rfl, rfl⟩
  | some sink =>
    dsimp only
    cases sink.write (Utf8.encode line.terminator) <;> exact ⟨rfl, rfl⟩

theorem putLine_frame (w : LineWriter) (line : Line) :
    (w.putLine line).2.chain.isEmpty = w.chain.isEmpty ∧ (w.putLine line).2.path = w.path := by
  have hchain := w.chain.isEmpty_apply line
  unfold putLine
  rcases happly : w.chain.apply line with ⟨result, chain⟩
  rw [happly] at hchain
  cases result with
  | error e => exact ⟨hchain, rfl⟩
  | ok out =>
    cases out with
    | none => exact ⟨hchain, rfl⟩
    | some kept =>
      obtain ⟨hsame, hpath⟩ := writeLine_frame { w with chain } kept
      exact ⟨(congrArg LineChain.isEmpty hsame).trans hchain, hpath⟩

/-- Lines change neither whether there are processors nor the path that failures name. -/
theorem putLines_frame (w : LineWriter) (lines : List Line) :
    (w.putLines lines).2.chain.isEmpty = w.chain.isEmpty ∧ (w.putLines lines).2.path = w.path := by
  induction lines generalizing w with
  | nil => exact ⟨rfl, rfl⟩
  | cons line rest ih =>
    have hline := putLine_frame w line
    unfold putLines
    rcases hput : w.putLine line with ⟨result, after⟩
    rw [hput] at hline
    cases result with
    | error e => exact hline
    | ok _ => exact ⟨(ih after).1.trans hline.1, (ih after).2.trans hline.2⟩

theorem write_eq {w : LineWriter} (hchain : w.chain.isEmpty = false) {buffer tail : List UInt8}
    {text : List Char} (hdecode : Utf8.decodeFrom w.kept buffer = some (text, tail)) :
    w.write buffer =
      match w.putLines (Line.cut w.partly text).1 with
      | (.ok (), after) => (.ok (), after.carrying (Line.cut w.partly text).2 tail)
      | (.error e, after) =>
        (.error (.cause e), after.carrying (Line.cut w.partly text).2 []) := by
  unfold write
  rw [hchain, hdecode]
  have hframe := putLines_carrying w (Line.cut w.partly text).1 (Line.cut w.partly text).2 []
  unfold carrying at hframe
  simp only [Bool.false_eq_true, if_false, hframe]
  rcases w.putLines (Line.cut w.partly text).1 with ⟨result, after⟩
  cases result <;> rfl

/-- Buffers put the lines that end in all of them. The induction is on the buffers: what is
unfinished after one is where the next goes on. -/
theorem writeAll_eq {w : LineWriter} (hchain : w.chain.isEmpty = false)
    {buffers : List (List UInt8)} {tail : List UInt8} {text : List Char}
    (hdecode : Utf8.decodeFrom w.kept buffers.flatten = some (text, tail)) :
    match w.putLines (Line.cut w.partly text).1 with
    | (.ok (), after) =>
      w.writeAll buffers = (.ok (), after.carrying (Line.cut w.partly text).2 tail)
    | (.error e, after) =>
      ∃ partly, w.writeAll buffers = (.error (.cause e), after.carrying partly []) := by
  induction buffers generalizing w text with
  | nil =>
    obtain ⟨rfl, rfl⟩ : [] = text ∧ w.kept = tail := by
      simpa [Utf8.decodeFrom] using hdecode
    simp [Line.cut, putLines, writeAll]
  | cons buffer rest ih =>
    rw [List.flatten_cons, Utf8.decodeFrom_append] at hdecode
    cases hfirst : Utf8.decodeFrom w.kept buffer with
    | none => simp [hfirst] at hdecode
    | some decoded =>
      obtain ⟨first, kept⟩ := decoded
      rw [hfirst] at hdecode
      obtain ⟨⟨second, last⟩, hsecond, heq⟩ := Option.map_eq_some_iff.mp hdecode
      obtain ⟨rfl, rfl⟩ : first ++ second = text ∧ last = tail := by simpa using heq
      rw [Line.cut_append, putLines_append]
      have hwrite := write_eq hchain hfirst
      have hframe := putLines_frame w (Line.cut w.partly first).1
      unfold writeAll
      rw [hwrite]
      rcases hput : w.putLines (Line.cut w.partly first).1 with ⟨result, after⟩
      rw [hput] at hframe
      cases result with
      | error e => exact ⟨_, rfl⟩
      | ok _ =>
        have hgo := ih (w := after.carrying (Line.cut w.partly first).2 kept)
          (hframe.1.trans hchain) hsecond
        simp only [carrying_partly, putLines_carrying] at hgo ⊢
        rcases hrest : after.putLines (Line.cut (Line.cut w.partly first).2 second).1 with
          ⟨result, last⟩
        rw [hrest] at hgo
        cases result with
        | error e => exact hgo
        | ok _ => exact hgo

/-- How a whole output ends and what it leaves, by its text and the character that has not ended
in it. -/
def outcome (w : LineWriter) (text : List Char) (tail : List UInt8) :
    Except WriteError Unit × Sink :=
  match w.putLines (Line.cut [] text).1 with
  | (.error e, after) => (.error (.cause e), after.sink)
  | (.ok (), after) =>
    if tail.isEmpty then
      match after.putLines (Line.remainder? (Line.cut [] text).2).toList with
      | (.error e, after) => (.error (.cause e), after.sink)
      | (.ok (), after) => (.ok (), after.sink)
    else (.error (.cause (.io w.path .invalidData)), after.sink)

theorem finish_eq (w : LineWriter) (partly : List Char) (tail : List UInt8) :
    ((w.carrying partly tail).finish.1, (w.carrying partly tail).finish.2.sink) =
      if tail.isEmpty then
        ((w.putLines (Line.remainder? partly).toList).1,
          (w.putLines (Line.remainder? partly).toList).2.sink)
      else (.error (.io w.path .invalidData), w.sink) := by
  unfold finish
  cases tail with
  | cons b rest => rfl
  | nil =>
    cases hlast : Line.remainder? partly with
    | none => simp [hlast, putLines]
    | some line =>
      simp only [carrying_kept, carrying_partly, hlast, putLine_carrying, List.isEmpty_nil,
        Bool.not_true, Bool.false_eq_true, if_false, if_true, Option.toList_some, putLines]
      rcases w.putLine line with ⟨result, after⟩
      cases result <;> rfl

/-- The pieces do not show: only the text and its unfinished end count. -/
theorem run_eq_outcome {w : LineWriter} (hchain : w.chain.isEmpty = false)
    (hpartly : w.partly = []) (hkept : w.kept = []) {buffers : List (List UInt8)}
    {text : List Char} {tail : List UInt8}
    (hdecode : Utf8.decodeFrom [] buffers.flatten = some (text, tail)) :
    ((w.run buffers).1, (w.run buffers).2.sink) = w.outcome text tail := by
  have hwrite := writeAll_eq hchain (hkept.symm ▸ hdecode)
  have hframe := putLines_frame w (Line.cut [] text).1
  rw [hpartly] at hwrite
  unfold run outcome
  rcases hput : w.putLines (Line.cut [] text).1 with ⟨result, after⟩
  rw [hput] at hwrite hframe
  cases result with
  | error e =>
    obtain ⟨partly, hwrite⟩ := hwrite
    rw [hwrite]
    rfl
  | ok _ =>
    have hfinish := finish_eq after (Line.cut [] text).2 tail
    rw [hwrite]
    dsimp only
    rcases hdone : (after.carrying (Line.cut [] text).2 tail).finish with ⟨result, done⟩
    rw [hdone] at hfinish
    cases htail : tail.isEmpty with
    | false =>
      rw [htail, if_neg Bool.false_ne_true, Prod.mk.injEq] at hfinish
      obtain ⟨rfl, hsink⟩ := hfinish
      rw [if_neg Bool.false_ne_true, ← hframe.2, hsink]
    | true =>
      rw [htail, if_pos rfl, Prod.mk.injEq] at hfinish
      rw [if_pos rfl]
      rcases hlast : after.putLines (Line.remainder? (Line.cut [] text).2).toList with ⟨last, final⟩
      rw [hlast] at hfinish
      obtain ⟨rfl, hsink⟩ := hfinish
      cases result <;> simpa using hsink

theorem outcome_nil (w : LineWriter) (text : List Char) :
    w.outcome text [] =
      match w.putLines (Line.split text) with
      | (.error e, after) => (.error (.cause e), after.sink)
      | (.ok (), after) => (.ok (), after.sink) := by
  unfold outcome Line.split
  rw [putLines_append]
  rcases w.putLines (Line.cut [] text).1 with ⟨result, after⟩
  cases result <;> rfl

theorem outcome_ne_ok {w : LineWriter} {text : List Char} {tail : List UInt8} (htail : tail ≠ []) :
    (w.outcome text tail).1 ≠ .ok () := by
  unfold outcome
  rcases w.putLines (Line.cut [] text).1 with ⟨result, after⟩
  cases result <;> simp [htail]

/-! What lines come to at a destination without a limit. -/

theorem writeLine_of_unlimited {w : LineWriter} (hsink : w.sink.limit = none) (line : Line) :
    w.writeLine line = (.ok (), { w with sink := w.sink.add (Utf8.encode line.text) }) := by
  unfold writeLine
  rw [Sink.write_of_unlimited hsink]
  dsimp only
  rw [Sink.write_of_unlimited (by simpa using hsink)]
  simp [Line.text]

theorem putLine_of_unlimited {w : LineWriter} (hsink : w.sink.limit = none) (line : Line) :
    w.putLine line =
      match w.chain.apply line with
      | (.error e, chain) => (.error e, { w with chain })
      | (.ok kept, chain) =>
        (.ok (), { w with
          chain, sink := w.sink.add (Utf8.encode (kept.toList.flatMap Line.text)) }) := by
  unfold putLine
  rcases w.chain.apply line with ⟨result, chain⟩
  cases result with
  | error e => rfl
  | ok kept =>
    cases kept with
    | none => simp
    | some line => simpa using writeLine_of_unlimited (w := { w with chain }) hsink line

/-- Lines end as the chain ends on them, and on success leave those that it keeps. -/
theorem putLines_of_unlimited {w : LineWriter} (hsink : w.sink.limit = none) (lines : List Line) :
    (w.putLines lines).1 = (w.chain.applyAll lines).map (fun _ => ()) ∧
      ∀ kept, w.chain.applyAll lines = .ok kept →
        (w.putLines lines).2.sink = w.sink.add (Utf8.encode (kept.flatMap Line.text)) := by
  induction lines generalizing w with
  | nil =>
    refine ⟨rfl, fun kept hkept => ?_⟩
    obtain rfl : [] = kept := Except.ok.inj hkept
    simp [putLines]
  | cons line rest ih =>
    unfold putLines LineChain.applyAll
    rw [putLine_of_unlimited hsink]
    rcases w.chain.apply line with ⟨result, chain⟩
    cases result with
    | error e => exact ⟨rfl, fun kept hkept => nomatch hkept⟩
    | ok out =>
      dsimp only
      obtain ⟨hresult, hbytes⟩ := ih (w := { w with
        chain, sink := w.sink.add (Utf8.encode (out.toList.flatMap Line.text)) }) hsink
      rw [hresult]
      cases hall : chain.applyAll rest with
      | error e => exact ⟨rfl, fun kept hkept => nomatch hkept⟩
      | ok more =>
        refine ⟨rfl, fun kept hkept => ?_⟩
        obtain rfl : out.toList ++ more = kept := Except.ok.inj hkept
        rw [hbytes more hall]
        simp

theorem outcome_of_unlimited {w : LineWriter} (hsink : w.sink.limit = none) {text : List Char}
    {lines : List Line} (hlines : Line.Splits text lines) :
    w.outcome text [] =
      match w.chain.applyAll lines with
      | .error e => (.error (.cause e), (w.putLines lines).2.sink)
      | .ok kept => (.ok (), w.sink.add (Utf8.encode (kept.flatMap Line.text))) := by
  obtain ⟨hresult, hkept⟩ := putLines_of_unlimited hsink lines
  rw [outcome_nil, hlines.split_eq]
  rcases hput : w.putLines lines with ⟨result, after⟩
  rw [hput] at hresult hkept
  cases hall : w.chain.applyAll lines with
  | error e =>
    obtain rfl : result = .error e := by simpa [hall, Except.map] using hresult
    rfl
  | ok kept =>
    obtain rfl : result = .ok () := by simpa [hall, Except.map] using hresult
    exact congrArg (Prod.mk _) (hkept kept hall)

theorem run_of_isEmpty {w : LineWriter} (hchain : w.chain.isEmpty = true)
    (hsink : w.sink.limit = none) (hpartly : w.partly = []) (hkept : w.kept = [])
    (buffers : List (List UInt8)) :
    w.run buffers = (.ok (), { w with sink := w.sink.add buffers.flatten }) := by
  have hwrite : w.writeAll buffers = (.ok (), { w with sink := w.sink.add buffers.flatten }) := by
    clear hpartly hkept
    induction buffers generalizing w with
    | nil => simp [writeAll]
    | cons buffer rest ih =>
      unfold writeAll write
      rw [hchain, if_pos rfl, Sink.write_of_unlimited hsink]
      dsimp only
      rw [ih (w := { w with sink := w.sink.add buffer }) hchain hsink]
      simp
  unfold run
  rw [hwrite]
  simp [finish, hkept, hpartly, Line.remainder?]

/-- Whatever the pieces of an output, it ends in the same way and leaves the same bytes as if it had
come at once: on success those of the lines that the chain keeps of the text, and the output itself
if no processor changes a line. -/
theorem run_independent_of_pieces (chain : LineChain) (hchain : chain.isEmpty = false)
    (sink : Sink) (hsink : sink.limit = none) (path : Path) (text : List Char)
    (tail : List UInt8) (htail : Utf8.Incomplete tail) (buffers : List (List UInt8))
    (hbuffers : buffers.flatten = Utf8.encode text ++ tail) (lines : List Line)
    (hlines : Line.Splits text lines) :
    let w : LineWriter := { sink, chain, path }
    (w.run buffers).1 = (w.run [buffers.flatten]).1 ∧
      (w.run buffers).2.sink.bytes = (w.run [buffers.flatten]).2.sink.bytes ∧
      ((w.run buffers).1 = .ok () ↔ tail = [] ∧ ∃ kept, chain.applyAll lines = .ok kept) ∧
      (∀ kept, (w.run buffers).1 = .ok () → chain.applyAll lines = .ok kept →
        (w.run buffers).2.sink.bytes = sink.bytes ++ Utf8.encode (kept.flatMap Line.text)) ∧
      (chain.Unchanging → tail = [] →
        (w.run buffers).1 = .ok () ∧
        (w.run buffers).2.sink.bytes = sink.bytes ++ buffers.flatten ∧
        (w.run buffers).2.sink.bytes =
          (({ sink, chain := {}, path } : LineWriter).run buffers).2.sink.bytes) := by
  intro w
  have hdecode : Utf8.decodeFrom [] buffers.flatten = some (text, tail) := by
    rw [hbuffers]
    exact Utf8.decodeFrom_encode_append text htail
  have hrun : ((w.run buffers).1, (w.run buffers).2.sink) = w.outcome text tail :=
    run_eq_outcome hchain rfl rfl hdecode
  have hwhole : ((w.run [buffers.flatten]).1, (w.run [buffers.flatten]).2.sink) =
      w.outcome text tail :=
    run_eq_outcome hchain rfl rfl (by simpa using hdecode)
  obtain ⟨hresult, hsame⟩ := Prod.mk.inj (hrun.trans hwhole.symm)
  have hsuccess : ∀ kept, tail = [] → chain.applyAll lines = .ok kept →
      (w.run buffers).1 = .ok () ∧
        (w.run buffers).2.sink = sink.add (Utf8.encode (kept.flatMap Line.text)) := by
    rintro kept rfl hkept
    rw [outcome_of_unlimited hsink hlines, hkept] at hrun
    exact Prod.mk.inj hrun
  have hcomplete : (w.run buffers).1 = .ok () →
      tail = [] ∧ ∃ kept, chain.applyAll lines = .ok kept := by
    intro hok
    by_cases hnil : tail = []
    · subst hnil
      rw [outcome_of_unlimited hsink hlines] at hrun
      cases hall : chain.applyAll lines with
      | ok kept => exact ⟨rfl, kept, rfl⟩
      | error e => simp [w, hall, hok] at hrun
    · exact absurd ((congrArg Prod.fst hrun).symm.trans hok) (outcome_ne_ok hnil)
  refine ⟨hresult, congrArg Sink.bytes hsame, ⟨hcomplete, ?_⟩, ?_, ?_⟩
  · rintro ⟨hnil, kept, hkept⟩
    exact (hsuccess kept hnil hkept).1
  · intro kept hok hkept
    rw [(hsuccess kept (hcomplete hok).1 hkept).2, Sink.add_bytes]
  · intro hsteady hnil
    have hall : chain.applyAll lines = .ok lines :=
      LineChain.applyAll_of_unchanging hsteady hlines.acceptable
    obtain ⟨hok, hadd⟩ := hsuccess lines hnil hall
    have hbytes : buffers.flatten = Utf8.encode (lines.flatMap Line.text) := by
      rw [hbuffers, hnil, List.append_nil, hlines.flatMap_text]
    refine ⟨hok, ?_, ?_⟩
    · rw [hadd, hbytes, Sink.add_bytes]
    · rw [hadd, run_of_isEmpty rfl hsink rfl rfl, hbytes]

/-- A heart in three buffers and a terminator in two: the blank before the terminator is trimmed and
nothing else changes. -/
theorem run_independent_of_pieces_heart :
    let chain := LineChain.ofList [.trimTrailing, .limitEmpty 1]
    let buffers : List (List UInt8) := [[0xE2], [], [0x9D, 0xA4, 0x20, 0x0D], [0x0A, 0x61]]
    let w : LineWriter := { sink := {}, chain, path := ⟨"out.txt"⟩ }
    chain.isEmpty = false ∧ buffers.flatten = Utf8.encode "❤ \r\na".toList ++ [] ∧
      (w.run buffers).1 = .ok () ∧
      (w.run buffers).2.sink.bytes = Utf8.encode "❤\r\na".toList := by
  intro chain buffers w
  have hlines : Line.Splits "❤ \r\na".toList [⟨['❤', ' '], ['\r', '\n']⟩, ⟨['a'], []⟩] :=
    @Line.Splits.returnFeed ['❤', ' '] ['a'] _ (by decide) (.last (by decide) (by decide))
  have hbuffers : buffers.flatten = Utf8.encode "❤ \r\na".toList ++ [] := by decide
  have hkept : chain.applyAll [⟨['❤', ' '], ['\r', '\n']⟩, ⟨['a'], []⟩] =
      .ok [⟨['❤'], ['\r', '\n']⟩, ⟨['a'], []⟩] := by decide
  obtain ⟨-, -, hok, hbytes, -⟩ := run_independent_of_pieces chain (by decide) {} rfl
    ⟨"out.txt"⟩ _ [] Utf8.incomplete_nil buffers hbuffers _ hlines
  exact ⟨by decide, hbuffers, hok.mpr ⟨rfl, _, hkept⟩, hbytes _ (hok.mpr ⟨rfl, _, hkept⟩) hkept⟩

end LineWriter

end SchemaForge
