import SchemaForge.Proofs.Naming.Doubled

/-! Guarded starts of encoded names in the C family. Lowering a capital leaves no guarded start. The
code of a second underscore begins with a capital itself, so two underscores in front are only
exchanged for an underscore and a capital. -/

namespace SchemaForge.Encoder

variable {e : Encoder} {token text : List Char}

def IllegalStart (text : List Char) : Prop :=
  ['_', '_'] <+: text ∨ ∃ c, ('A' ≤ c ∧ c ≤ 'Z') ∧ ['_', c] <+: text

theorem isUpper_iff {c : Char} : c.isUpper = true ↔ 'A' ≤ c ∧ c ≤ 'Z' := by
  unfold Char.isUpper
  simp [Char.le_def]

theorem illegalStart_iff : IllegalStart text ↔ guardedStart? text ≠ none := by
  unfold guardedStart?
  split
  · rename_i c rest
    have hpair : ∀ d, ['_', d] <+: '_' :: c :: rest ↔ d = c := by simp
    simp only [IllegalStart, hpair, ← isUpper_iff]
    by_cases hdouble : c = '_'
    · simp [hdouble]
    · by_cases hupper : c.isUpper = true
      · simp [hdouble, hupper]
      · simp [hdouble, hupper, Ne.symm hdouble]
  · rename_i hshort
    have hpair : ∀ d, ¬ ['_', d] <+: text := by
      rintro d ⟨rest, rfl⟩
      exact hshort d rest rfl
    simp [IllegalStart, hpair]

theorem isUpper_eq_false_of_isLower {c : Char} (h : c.isLower = true) : c.isUpper = false := by
  have hlow : 'a'.val.toNat = 97 := rfl
  have hhigh : 'Z'.val.toNat = 90 := rfl
  unfold Char.isLower at h
  unfold Char.isUpper
  simp only [Bool.and_eq_true, decide_eq_true_eq, decide_eq_false_iff_not, ge_iff_le,
    UInt32.le_iff_toNat_le] at h ⊢
  omega

theorem not_illegalStart_lowered {c : Char} (hc : c.isUpper = true) (rest : List Char) :
    ¬ IllegalStart ('_' :: c.toLower :: rest) := by
  have hlower := isLower_toLower hc
  have hunderscore : c.toLower ≠ '_' := by
    intro h
    rw [h] at hlower
    cases hlower
  simp [illegalStart_iff, guardedStart?, hunderscore, isUpper_eq_false_of_isLower hlower]

namespace CFamily

theorem mem_words_of_isReserved (h : e.CFamily) (hreserved : e.isReserved text = true)
    (hstart : text = [] ∨ ['_'] <+: text) : text ∈ e.words := by
  rcases h.isReserved_iff.mp hreserved with hword | ⟨shape, hshape, hmeets⟩
  · exact hword
  · obtain ⟨c, rest, rfl, hc, -⟩ := head_of_meets hshape hmeets
    simp [Ne.symm hc] at hstart

theorem isReserved_doubled (h : e.CFamily) (rest : List Char) :
    e.isReserved ('_' :: (e.encodeChar '_' ++ rest)) = false := by
  apply Bool.eq_false_iff.mpr
  intro hreserved
  have hfits := h.words _ (h.mem_words_of_isReserved hreserved (Or.inr (by simp)))
  simp [isCWord, h.encodeChar_underscore] at hfits

theorem correctStart_doubled (h : e.CFamily) (rest : List Char) :
    e.correctStart ('_' :: '_' :: rest) = '_' :: (e.encodeChar '_' ++ rest) := by
  rcases e.correctStart_cases ('_' :: '_' :: rest) with ⟨hfree, -⟩ | ⟨more, hcorrects, hresult⟩
  · cases hfree
  · cases hcorrects with
    | underscore => rw [hresult, h.isReserved_doubled, if_neg Bool.false_ne_true]
    | capital hc => cases hc

theorem illegalStart_correctStart (h : e.CFamily) :
    IllegalStart (e.correctStart text) ↔ ['_', '_'] <+: text := by
  rcases e.correctStart_cases text with ⟨hfree, hsame⟩ | ⟨rest, hcorrects, hresult⟩
  · have hlegal : ¬ IllegalStart text := by simp [illegalStart_iff, hfree]
    rw [hsame, iff_false_left hlegal]
    exact fun hdouble => hlegal (Or.inl hdouble)
  · cases hcorrects with
    | underscore rest =>
      rw [h.correctStart_doubled, h.encodeChar_underscore]
      exact iff_of_true (Or.inr ⟨'Z', by decide, by simp⟩) (by simp)
    | capital hc rest =>
      -- Reserved names with an underscore in front have guarded starts, which this one has not.
      have hlegal := not_illegalStart_lowered hc rest
      have hfree : e.isReserved ('_' :: _ :: rest) = false :=
        Bool.eq_false_iff.mpr fun hreserved =>
          hlegal (illegalStart_iff.mpr (h.isReserved_underscore hreserved))
      rw [hresult, hfree, if_neg Bool.false_ne_true, iff_false_left hlegal]
      rintro ⟨more, hmore⟩
      cases hmore
      cases hc

theorem illegalStart_splitUnderscores (h : e.CFamily) :
    IllegalStart (e.splitUnderscores text) ↔ IllegalStart text := by
  fun_cases Encoder.splitUnderscores e text with
  | case1 rest =>
    rw [h.encodeChar_underscore]
    exact iff_of_true (Or.inr ⟨'Z', by decide, by simp⟩) (Or.inl (by simp))
  | case2 c rest hpair =>
    by_cases hc : c = '_'
    · subst hc
      cases rest with
      | nil => rfl
      | cons d rest =>
        have hd : d ≠ '_' := by
          rintro rfl
          exact hpair rest rfl rfl
        rw [splitUnderscores_cons_of_ne hd]
        simp [IllegalStart]
    · simp [IllegalStart, Ne.symm hc]
  | case3 => rfl

theorem doubled_strop (h : e.CFamily) (hempty : [] ∉ e.words) :
    ['_', '_'] <+: e.strop text ↔ ['_', '_'] <+: text ∨ ['_'] <+: text ∧ text ∈ e.words := by
  rcases e.strop_cases text with ⟨hreserved, hstrop⟩ | ⟨hfree, hstrop⟩
  · have hword := h.mem_words_of_isReserved hreserved
    cases text with
    | nil => exact absurd (hword (Or.inl rfl)) hempty
    | cons c rest =>
      rw [hstrop, h.stropBefore]
      simp only [List.cons_append, List.nil_append, List.cons_prefix_cons, List.nil_prefix, true_and,
        and_true, reduceCtorEq, false_or] at hword ⊢
      tauto
  · have hword : text ∉ e.words := by
      intro hword
      rw [h.isReserved_iff.mpr (Or.inl hword)] at hfree
      cases hfree
    simp [hstrop, hword]

theorem illegalStart_encodeChars (h : e.CFamily) (hempty : [] ∉ e.words) :
    IllegalStart (e.encodeChars token) ↔ ['_', '_'] <+: e.replaceIllegal token ∨
      ['_'] <+: e.replaceIllegal token ∧ e.replaceIllegal token ∈ e.words := by
  rw [h.encodeChars_eq, ← h.doubled_strop hempty, ← h.illegalStart_correctStart]
  split
  · exact h.illegalStart_splitUnderscores
  · rfl

def guardedWords : List String :=
  ["_Alignas", "_Alignof", "_Atomic", "_Bool", "_Complex", "_Generic", "_Imaginary", "_Noreturn",
    "_Pragma", "_Static_assert", "_Thread_local"]

def beginsBare (w : List Char) : Bool :=
  w.head?.all (· == '_') && !(['_', '_'].isPrefixOf w)

theorem illegalStart_encode_iff (h : e.CFamily) {t : Target} (he : e.IsFor t)
    (hbare : (Rules.listedWords t.table).filter (beginsBare ·.toList) = guardedWords)
    (token : String) : IllegalStart (e.encode token).toList ↔
      ['_', '_'] <+: e.replaceIllegal token.toList ∨
        String.ofList (e.replaceIllegal token.toList) ∈ guardedWords := by
  have hword : ∀ w, String.ofList w ∈ guardedWords ↔ w ∈ e.words ∧ beginsBare w = true := by
    intro w
    rw [← hbare, List.mem_filter, he.mem_words, String.toList_ofList]
  have hempty : [] ∉ e.words := by
    intro hmem
    have hguarded := (hword []).mpr ⟨hmem, rfl⟩
    simp [guardedWords] at hguarded
  rw [encode, String.toList_ofList, h.illegalStart_encodeChars hempty, hword]
  generalize e.replaceIllegal token.toList = text
  by_cases hdouble : ['_', '_'] <+: text
  · simp [hdouble]
  · have hstart : text ∈ e.words → (['_'] <+: text ↔ beginsBare text = true) := by
      intro hmem
      cases text with
      | nil => exact absurd hmem hempty
      | cons c rest =>
        have hbool : ['_', '_'].isPrefixOf (c :: rest) = false := by
          simpa [← List.isPrefixOf_iff_prefix] using hdouble
        simp only [beginsBare, hbool, List.cons_prefix_cons, List.nil_prefix, and_true,
          List.head?_cons, Option.all_some, Bool.not_false, Bool.and_true, beq_iff_eq]
        exact eq_comm
    tauto

end CFamily

/-- In C and in C++ an encoded token has a guarded start if, once its illegal characters are
replaced, it has two underscores in front or is a reserved word with one, and not otherwise. -/
theorem illegalStart_encode (token : String) :
    (∃ e : Encoder, e.IsFor Target.c ∧ (IllegalStart (e.encode token).toList ↔
      ['_', '_'] <+: e.replaceIllegal token.toList ∨
        String.ofList (e.replaceIllegal token.toList) ∈ CFamily.guardedWords)) ∧
    ∃ e : Encoder, e.IsFor Target.cpp ∧ (IllegalStart (e.encode token).toList ↔
      ['_', '_'] <+: e.replaceIllegal token.toList ∨
        String.ofList (e.replaceIllegal token.toList) ∈ CFamily.guardedWords) := by
  constructor
  · obtain ⟨e, he, hfamily, -⟩ := exists_cFamily_c
    exact ⟨e, he, hfamily.illegalStart_encode_iff he (by decide +kernel) token⟩
  · obtain ⟨e, he, hfamily, -⟩ := exists_cFamily_cpp
    exact ⟨e, he, hfamily.illegalStart_encode_iff he (by decide +kernel) token⟩

theorem illegalStart_encode_doubled : ∃ e : Encoder, e.IsFor Target.c ∧
    e.encode "__x" = "_ZX005Fx" ∧ IllegalStart (e.encode "__x").toList := by
  obtain ⟨e, he, hfamily, hsplit⟩ := exists_cFamily_c
  have hwords : ∀ w ∈ e.words, (w != ['_', '_', 'x']) = true := he.words (by decide +kernel)
  have hfree : e.isReserved ['_', '_', 'x'] = false := by
    apply Bool.eq_false_iff.mpr
    intro hreserved
    have hword := hwords _ (hfamily.mem_words_of_isReserved hreserved (Or.inr (by simp)))
    simp at hword
  have hplain : e.replaceIllegal "__x".toList = ['_', '_', 'x'] := rfl
  have hencode : e.encode "__x" = "_ZX005Fx" := by
    rw [encode, hfamily.encodeChars_eq, hsplit, if_neg Bool.false_ne_true, hplain, strop, hfree,
      if_neg Bool.false_ne_true, hfamily.correctStart_doubled, hfamily.encodeChar_underscore]
    decide
  refine ⟨e, he, hencode, ?_⟩
  rw [hencode]
  exact Or.inr ⟨'Z', by decide, by decide⟩

end SchemaForge.Encoder
