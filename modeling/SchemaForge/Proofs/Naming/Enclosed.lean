import SchemaForge.Proofs.Naming.Reserved

/-! Names between two pairs of underscores in Python. Such a name is reserved, and the underscore
that it gets at its end leaves it between two pairs of underscores, so it stays reserved. All other
names end up free. -/

namespace SchemaForge.Encoder

variable {e : Encoder} {token text : List Char}

def IsEnclosed (text : List Char) : Prop :=
  ∃ mid, mid ≠ [] ∧ text = '_' :: '_' :: (mid ++ ['_', '_'])

theorem IsEnclosed.append_underscore (h : IsEnclosed text) : IsEnclosed (text ++ ['_']) := by
  obtain ⟨mid, -, rfl⟩ := h
  exact ⟨mid ++ ['_'], by simp, by simp⟩

/-- An underscore at the end encloses no text that did not begin with one. -/
theorem IsEnclosed.head_of_append (h : IsEnclosed (text ++ ['_'])) : text.head? = some '_' := by
  obtain ⟨mid, -, htext⟩ := h
  cases text with
  | nil => simp at htext
  | cons c rest => simp_all

structure Underscored (e : Encoder) : Prop where
  stropBefore : e.stropBefore = []
  stropAfter : e.stropAfter = ['_']
  patterns : e.patterns = [Pattern.atStart (Pattern.enclosed ['_', '_'] inLine)]
  words : ∀ w ∈ e.words, w.head? ≠ some '_' ∧ w.getLast? ≠ some '_'

namespace Underscored

theorem isReserved_iff (h : e.Underscored) (hline : '\n' ∉ text) :
    e.isReserved text = true ↔ text ∈ e.words ∨ IsEnclosed text := by
  rw [isReserved, Bool.or_eq_true, List.contains_iff_mem, h.patterns, List.any_cons, List.any_nil,
    Bool.or_false, Pattern.isMatch_enclosed]
  apply or_congr Iff.rfl
  constructor
  · rintro ⟨mid, hmid, -, htext⟩
    exact ⟨mid, hmid, htext⟩
  · rintro ⟨mid, hmid, rfl⟩
    refine ⟨mid, hmid, ?_, rfl⟩
    intro c hc
    have hne : c ≠ '\n' := by
      rintro rfl
      exact hline (by simp [hc])
    simp [inLine, Pattern.CharClass.contains, hne]

theorem not_isEnclosed (h : e.Underscored) (hword : text ∈ e.words) : ¬ IsEnclosed text := by
  rintro ⟨mid, -, rfl⟩
  exact (h.words _ hword).1 rfl

theorem isReserved_strop_iff (h : e.Underscored) (hline : '\n' ∉ text) :
    e.isReserved (e.strop text) = true ↔ IsEnclosed text := by
  rcases e.strop_cases text with ⟨hreserved, hstrop⟩ | ⟨hfree, hstrop⟩
  · rw [hstrop, h.stropBefore, h.stropAfter, List.nil_append, h.isReserved_iff (by simpa using hline)]
    rcases (h.isReserved_iff hline).mp hreserved with hword | henclosed
    · have hlast : text ++ ['_'] ∉ e.words := fun hlast => (h.words _ hlast).2 (by simp)
      have hstart : ¬ IsEnclosed (text ++ ['_']) := fun hstart =>
        (h.words _ hword).1 hstart.head_of_append
      simp [hlast, hstart, h.not_isEnclosed hword]
    · exact iff_of_true (Or.inr henclosed.append_underscore) henclosed
  · have hopen : ¬ IsEnclosed text := by
      intro henclosed
      rw [(h.isReserved_iff hline).mpr (Or.inr henclosed)] at hfree
      cases hfree
    simp [hstrop, hfree, hopen]

end Underscored

theorem IsFor.underscored (he : e.IsFor Target.python) : e.Underscored := by
  obtain ⟨e', he', -, hbefore, hafter, -, -, hpatterns, hwords⟩ := exists_python
  obtain rfl : e = e' := he.unique he'
  exact ⟨hbefore, hafter, hpatterns, hwords⟩

/-- In Python an encoded token is reserved if the token with its illegal characters replaced has
something between two underscores in front and two at the end, and not otherwise. -/
theorem isReserved_encode_python (token : String) : ∃ e : Encoder, e.IsFor Target.python ∧
    (e.isReserved (e.encode token).toList = true ↔
      ∃ mid, mid ≠ [] ∧ e.replaceIllegal token.toList = '_' :: '_' :: (mid ++ ['_', '_'])) := by
  obtain ⟨e, he, henabled, hbefore, hafter, hguard, hsplit, hpatterns, hwords⟩ := exists_python
  refine ⟨e, he, ?_⟩
  have haffixes : e.PlainAffixes := by
    obtain ⟨rules, hload, he⟩ := he
    exact plainAffixes_of_load hload he
  have hline : '\n' ∉ e.replaceIllegal token.toList := by
    intro hmem
    have hplain := haffixes.replaceIllegal _ hmem
    cases hplain
  rw [encode, String.toList_ofList]
  simp only [encodeChars, henabled, hguard, hsplit, if_true, Bool.false_eq_true, if_false]
  exact Underscored.isReserved_strop_iff ⟨hbefore, hafter, hpatterns, hwords⟩ hline

theorem isReserved_encode_enclosed : ∃ e : Encoder, e.IsFor Target.python ∧
    e.encode "__x__" = "__x___" ∧ e.isReserved (e.encode "__x__").toList = true := by
  obtain ⟨e, he, htest⟩ := exists_of_passes
    (show passes Target.python (fun e => e.encode "__x__" == "__x___"
      && e.isReserved (e.encode "__x__").toList) = true by decide +kernel)
  simp only [Bool.and_eq_true, beq_iff_eq] at htest
  exact ⟨e, he, htest⟩

end SchemaForge.Encoder
