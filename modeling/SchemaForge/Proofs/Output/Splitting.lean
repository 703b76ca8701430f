import SchemaForge.Output.Chain

/-! How a text falls into lines, said without cutting it. A text has exactly one list of lines, and
cutting it gives that list; every line of it is one that a processor may return. -/

namespace SchemaForge.Line

/-- The lines of a text: each but the last ends with a line feed, and a carriage return before
the line feed belongs to the terminator. -/
inductive Splits : List Char → List Line → Prop where
  | nil : Splits [] []
  | last {content : List Char} (hne : content ≠ []) (hcontent : '\n' ∉ content) :
      Splits content [⟨content, []⟩]
  | feed {content rest : List Char} {lines : List Line} (hcontent : '\n' ∉ content)
      (hend : content.getLast? ≠ some '\r') (hrest : Splits rest lines) :
      Splits (content ++ '\n' :: rest) (⟨content, ['\n']⟩ :: lines)
  | returnFeed {content rest : List Char} {lines : List Line} (hcontent : '\n' ∉ content)
      (hrest : Splits rest lines) :
      Splits (content ++ '\r' :: '\n' :: rest) (⟨content, ['\r', '\n']⟩ :: lines)

theorem ofReversed_reverse {content : List Char} (hend : content.getLast? ≠ some '\r') :
    ofReversed content.reverse = ⟨content, ['\n']⟩ := by
  unfold ofReversed
  split
  · rename_i rest hrest
    rw [List.reverse_eq_cons_iff] at hrest
    simp [hrest] at hend
  · rw [List.reverse_reverse]

@[simp] theorem ofReversed_return (content : List Char) :
    ofReversed ('\r' :: content.reverse) = ⟨content, ['\r', '\n']⟩ := by
  simp [ofReversed]

theorem cut_of_not_mem {content : List Char} (h : '\n' ∉ content) (partly : List Char) :
    cut partly content = ([], content.reverse ++ partly) := by
  induction content generalizing partly with
  | nil => rfl
  | cons c rest ih =>
    rw [List.mem_cons, not_or] at h
    rw [cut, if_neg (Ne.symm h.1), ih h.2]
    simp

theorem cut_append_feed {content : List Char} (h : '\n' ∉ content) (rest : List Char) :
    cut [] (content ++ '\n' :: rest) =
      (ofReversed content.reverse :: (cut [] rest).1, (cut [] rest).2) := by
  rw [cut_append, cut_of_not_mem h]
  simp [cut]

theorem split_append_feed {content : List Char} (h : '\n' ∉ content) (rest : List Char) :
    split (content ++ '\n' :: rest) = ofReversed content.reverse :: split rest := by
  simp [split, cut_append_feed h]

/-- Cutting gives the lines of a text, so a text has no other lines. -/
theorem Splits.split_eq {text : List Char} {lines : List Line} (h : Splits text lines) :
    split text = lines := by
  induction h with
  | nil => rfl
  | last hne hcontent =>
    rw [split, cut_of_not_mem hcontent]
    simp [remainder?, hne]
  | feed hcontent hend _ ih =>
    rw [split_append_feed hcontent, ofReversed_reverse hend, ih]
  | @returnFeed content rest lines hcontent _ ih =>
    have hreturn : '\n' ∉ content ++ ['\r'] := by simpa using hcontent
    have hsplit := split_append_feed hreturn rest
    rw [List.append_assoc, List.reverse_append] at hsplit
    simpa [ih] using hsplit

theorem splits_ofReversed {partly rest : List Char} {lines : List Line} (h : '\n' ∉ partly)
    (hrest : Splits rest lines) :
    Splits (partly.reverse ++ '\n' :: rest) (ofReversed partly :: lines) := by
  by_cases hreturn : partly.head? = some '\r'
  · obtain ⟨begun, rfl⟩ := List.head?_eq_some_iff.mp hreturn
    have hbegun : '\n' ∉ begun.reverse := by simpa using h
    simpa [ofReversed] using Splits.returnFeed hbegun hrest
  · have hend : partly.reverse.getLast? ≠ some '\r' := by rwa [List.getLast?_reverse]
    have hline := ofReversed_reverse hend
    rw [List.reverse_reverse] at hline
    rw [hline]
    exact Splits.feed (by simpa using h) hend hrest

/-- The induction is on the text that is left to cut; what has been taken of the line that has
begun holds no line feed. -/
theorem splits_cut (partly text : List Char) (h : '\n' ∉ partly) :
    Splits (partly.reverse ++ text)
      ((cut partly text).1 ++ (remainder? (cut partly text).2).toList) := by
  induction text generalizing partly with
  | nil =>
    by_cases hp : partly = []
    · simpa [hp, cut, remainder?] using Splits.nil
    · have hlast : Splits partly.reverse [⟨partly.reverse, []⟩] :=
        Splits.last (by simpa using hp) (by simpa using h)
      simpa [hp, cut, remainder?] using hlast
  | cons c rest ih =>
    by_cases hc : c = '\n'
    · subst hc
      have hrest := ih [] (by simp)
      rw [List.reverse_nil, List.nil_append] at hrest
      simpa [cut] using splits_ofReversed h hrest
    · have hcons := ih (c :: partly) (by simp [h, Ne.symm hc])
      simpa [cut, hc] using hcons

theorem splits_split (text : List Char) : Splits text (split text) :=
  splits_cut [] text (by simp)

namespace Splits

variable {text : List Char} {lines : List Line}

theorem flatMap_text (h : Splits text lines) : lines.flatMap Line.text = text := by
  induction h with
  | nil => rfl
  | last _ _ => simp [Line.text]
  | feed _ _ _ ih => simp [Line.text, ih]
  | returnFeed _ _ ih => simp [Line.text, ih]

/-- The lines of a text are lines that a processor may return, and none of them is dropped. -/
theorem acceptable (h : Splits text lines) :
    ∀ line ∈ lines, LineChain.breach? line = none ∧ line.isElided = false := by
  induction h with
  | nil => simp
  | last hne hcontent =>
    simp [LineChain.breach?, LineChain.isTerminator, isElided, hne, hcontent]
  | feed hcontent _ _ ih =>
    refine List.forall_mem_cons.mpr ⟨?_, ih⟩
    simp [LineChain.breach?, LineChain.isTerminator, isElided, hcontent]
  | returnFeed hcontent _ ih =>
    refine List.forall_mem_cons.mpr ⟨?_, ih⟩
    simp [LineChain.breach?, LineChain.isTerminator, isElided, hcontent]

end Splits

end SchemaForge.Line
