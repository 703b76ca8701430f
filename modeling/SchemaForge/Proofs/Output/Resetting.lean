import SchemaForge.Proofs.Output.Pieces

/-! Chains between files. Writing gives the processors of a chain lines to remember and does nothing
else to the chain, so a reset after a file makes it what a reset before the file would have. -/

namespace SchemaForge

namespace LineChain

theorem reset_run (stages : List LineStage) (line : Line) :
    reset ⟨(run stages line).2⟩ = reset ⟨stages⟩ := by
  simp only [reset, mk.injEq]
  induction stages generalizing line with
  | nil => rfl
  | cons stage rest ih =>
    unfold run
    dsimp only
    split
    · rfl
    · split
      · rfl
      · split
        · rfl
        · rw [List.map_cons, ih, List.map_cons]

theorem reset_apply (chain : LineChain) (line : Line) :
    (chain.apply line).2.reset = chain.reset :=
  reset_run chain.stages line

@[simp] theorem reset_reset (chain : LineChain) : chain.reset.reset = chain.reset := by
  simp [reset]

theorem reset_push (chain : LineChain) (p : LineProcessor) :
    (chain.push p).reset = chain.reset.push p := by
  simp [reset, push]

@[simp] theorem contains_reset (chain : LineChain) (name : String) :
    chain.reset.contains name = chain.contains name := by
  simp [reset, contains, Function.comp_def]

@[simp] theorem contains_push (chain : LineChain) (p : LineProcessor) (name : String) :
    (chain.push p).contains name = (chain.contains name || p.name == name) := by
  simp [push, contains]

end LineChain

namespace LineWriter

theorem reset_putLine (w : LineWriter) (line : Line) :
    (w.putLine line).2.chain.reset = w.chain.reset := by
  have happly := w.chain.reset_apply line
  unfold putLine
  generalize w.chain.apply line = r at happly ⊢
  obtain ⟨_ | _ | kept, chain⟩ := r
  · exact happly
  · exact happly
  · dsimp only
    rw [(writeLine_frame { w with chain } kept).1]
    exact happly

theorem reset_putLines (w : LineWriter) (lines : List Line) :
    (w.putLines lines).2.chain.reset = w.chain.reset := by
  induction lines generalizing w with
  | nil => rfl
  | cons line rest ih =>
    have hline := reset_putLine w line
    unfold putLines
    generalize w.putLine line = r at hline ⊢
    obtain ⟨_ | _, after⟩ := r
    · exact hline
    · exact (ih after).trans hline

theorem reset_write (w : LineWriter) (buffer : List UInt8) :
    (w.write buffer).2.chain.reset = w.chain.reset := by
  unfold write
  split
  · cases w.sink.write buffer with
    | none => rfl
    | some sink => rfl
  · rcases Utf8.decodeFrom w.kept buffer with _ | ⟨cs, kept⟩
    · rfl
    · dsimp only
      have hlines := reset_putLines { w with partly := (Line.cut w.partly cs).2, kept := [] }
        (Line.cut w.partly cs).1
      generalize putLines { w with partly := (Line.cut w.partly cs).2, kept := [] } _ = r
        at hlines ⊢
      obtain ⟨_ | _, after⟩ := r
      · exact hlines
      · exact hlines

theorem reset_writeAll (w : LineWriter) (buffers : List (List UInt8)) :
    (w.writeAll buffers).2.chain.reset = w.chain.reset := by
  induction buffers generalizing w with
  | nil => rfl
  | cons buffer rest ih =>
    have hfirst := reset_write w buffer
    unfold writeAll
    generalize w.write buffer = r at hfirst ⊢
    obtain ⟨_ | _, after⟩ := r
    · exact hfirst
    · exact (ih after).trans hfirst

theorem reset_finish (w : LineWriter) : w.finish.2.chain.reset = w.chain.reset := by
  unfold finish
  split
  · rfl
  · cases Line.remainder? w.partly with
    | none => rfl
    | some line => exact reset_putLine w line

end LineWriter

end SchemaForge
