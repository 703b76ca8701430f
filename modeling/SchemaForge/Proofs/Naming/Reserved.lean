import SchemaForge.Proofs.Naming.Identifiers

/-! Reserved results. The affix that strops a reserved token leads to names that are not reserved,
or to a guarded start that is corrected; a correction that hits a reserved name is corrected once
more, to a name that starts with the mark. -/

namespace SchemaForge.Encoder

open Pattern (Shape)

variable {e : Encoder} {token text : List Char}

theorem strop_cases (e : Encoder) (token : List Char) :
    e.isReserved token = true ∧ e.strop token = e.stropBefore ++ token ++ e.stropAfter ∨
      e.isReserved token = false ∧ e.strop token = token := by
  unfold strop
  split
  · exact Or.inl ⟨‹_›, rfl⟩
  · exact Or.inr ⟨Bool.eq_false_iff.mpr ‹_›, rfl⟩

theorem isReserved_strop (hbefore : ∀ rest, e.isReserved (e.stropBefore ++ rest) = false) :
    e.isReserved (e.strop token) = false := by
  rcases e.strop_cases token with ⟨-, hstrop⟩ | ⟨hfree, hstrop⟩
  · rw [hstrop, List.append_assoc]
    exact hbefore _
  · rw [hstrop]
    exact hfree

/-- Where the reserved names with the affix in front have guarded starts, and none starts with the
mark, the corrected result is not reserved. -/
theorem isReserved_correctStart_strop
    (hbefore : ∀ rest, e.isReserved (e.stropBefore ++ rest) = true →
      guardedStart? (e.stropBefore ++ rest) ≠ none)
    (hmark : ∀ rest, e.isReserved (e.codeMark ++ rest) = false) :
    e.isReserved (e.correctStart (e.strop token)) = false := by
  rcases e.correctStart_cases (e.strop token) with ⟨hfree, hsame⟩ | ⟨rest, -, hresult⟩
  · rw [hsame]
    rcases e.strop_cases token with ⟨-, hstrop⟩ | ⟨hfree', hstrop⟩
    · rw [hstrop, List.append_assoc] at hfree ⊢
      exact Bool.eq_false_iff.mpr fun hreserved => hbefore _ hreserved hfree
    · rw [hstrop]
      exact hfree'
  · -- Only a corrected name that is still reserved has its first underscore encoded.
    rw [hresult]
    split
    · unfold encodeChar
      rw [List.append_assoc]
      exact hmark _
    · exact Bool.eq_false_iff.mpr ‹_›

namespace CFamily

theorem isReserved_iff (h : e.CFamily) :
    e.isReserved text = true ↔ text ∈ e.words ∨ ∃ shape ∈ cShapes, shape.Meets text := by
  rw [isReserved, Bool.or_eq_true, List.contains_iff_mem, h.patterns]
  simp only [List.any_map, List.any_eq_true, Function.comp_apply, Shape.isMatch_iff_meets]

theorem head_of_meets {shape : Shape} (hshape : shape ∈ cShapes) (hmeets : shape.Meets text) :
    ∃ c rest, text = c :: rest ∧ c ≠ '_' ∧ c ≠ 'Z' := by
  have hheads : ∀ shape ∈ cShapes, ∀ start ∈ shape.starts,
      (start.head?.any fun c => c != '_' && c != 'Z') = true := by decide
  obtain ⟨start, hstart, rest, rfl, -⟩ := hmeets
  have hhead := hheads shape hshape start hstart
  cases start with
  | nil => cases hhead
  | cons c start =>
    simp only [List.head?_cons, Option.any_some, Bool.and_eq_true, bne_iff_ne] at hhead
    exact ⟨c, start ++ rest, rfl, hhead⟩

theorem isReserved_underscore (h : e.CFamily) (hreserved : e.isReserved ('_' :: text) = true) :
    guardedStart? ('_' :: text) ≠ none := by
  rcases h.isReserved_iff.mp hreserved with hword | ⟨shape, hshape, hmeets⟩
  · have hfits := h.words _ hword
    simp only [isCWord, List.head?_cons, bne_self_eq_false, Bool.false_or, Bool.and_eq_true,
      Option.isSome_iff_ne_none] at hfits
    exact hfits.2
  · obtain ⟨c, rest, htext, hc, -⟩ := head_of_meets hshape hmeets
    cases htext
    exact absurd rfl hc

theorem isReserved_mark (h : e.CFamily) : e.isReserved (e.codeMark ++ text) = false := by
  rw [h.codeMark, Bool.eq_false_iff, Ne, h.isReserved_iff]
  rintro (hword | ⟨shape, hshape, hmeets⟩)
  · have hfits := h.words _ hword
    simp [isCWord] at hfits
  · obtain ⟨c, rest, htext, -, hc⟩ := head_of_meets hshape hmeets
    cases htext
    exact absurd rfl hc

theorem isReserved_corrected (h : e.CFamily) :
    e.isReserved (e.correctStart (e.strop token)) = false := by
  apply isReserved_correctStart_strop
  · rw [h.stropBefore]
    exact fun rest => h.isReserved_underscore
  · exact fun rest => h.isReserved_mark

theorem encodeChars_eq (h : e.CFamily) (token : List Char) :
    e.encodeChars token =
      if e.splitDouble then e.splitUnderscores (e.correctStart (e.strop (e.replaceIllegal token)))
      else e.correctStart (e.strop (e.replaceIllegal token)) := by
  simp only [encodeChars, h.enabled, h.guardStart, if_true]

end CFamily

/-- In C and in JavaScript no encoded token is reserved. -/
theorem isReserved_encode (token : String) :
    (∃ e : Encoder, e.IsFor Target.c ∧ e.isReserved (e.encode token).toList = false) ∧
      ∃ e : Encoder, e.IsFor Target.javaScript ∧ e.isReserved (e.encode token).toList = false := by
  constructor
  · obtain ⟨e, he, hfamily, hsplit⟩ := exists_cFamily_c
    refine ⟨e, he, ?_⟩
    rw [encode, String.toList_ofList, hfamily.encodeChars_eq, hsplit, if_neg Bool.false_ne_true]
    exact hfamily.isReserved_corrected
  · obtain ⟨e, he, henabled, hbefore, hguard, hsplit, hpatterns, hwords⟩ := exists_javaScript
    refine ⟨e, he, ?_⟩
    rw [encode, String.toList_ofList]
    simp only [encodeChars, henabled, hguard, hsplit, if_true, Bool.false_eq_true, if_false]
    apply isReserved_strop
    intro rest
    rw [hbefore, isReserved, hpatterns, List.any_nil, Bool.or_false, Bool.eq_false_iff, Ne,
      List.contains_iff_mem]
    intro hword
    exact hwords _ hword rfl

end SchemaForge.Encoder
