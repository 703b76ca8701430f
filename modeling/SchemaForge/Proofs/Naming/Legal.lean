import SchemaForge.Proofs.Layout
import SchemaForge.Proofs.Naming.Starts
import SchemaForge.Proofs.Naming.Underscores

/-! What encoding leaves alone. Encoded tokens are identifiers, so that all others change. An
identifier gets longer by each step that changes it, but for a capital that is lowered in its place,
and no later step makes it shorter again: the identifiers that stay are those that no step changes. -/

namespace SchemaForge.Encoder

variable {e : Encoder} {token : List Char}

section Steps

theorem isBlank_of_isPlain {c : Char} (h : isPlain c = true) : Text.isBlank c = false := by
  rw [isPlain_iff] at h
  simp only [Char.le_def, UInt32.le_iff_toNat_le] at h
  rw [Bool.eq_false_iff]
  intro hblank
  simp only [Text.isBlank, Bool.or_eq_true, Bool.and_eq_true, decide_eq_true_eq, beq_iff_eq] at hblank
  rcases h with h | h | h | rfl
  · change 65 ≤ c.toNat ∧ c.toNat ≤ 90 at h
    omega
  · change 97 ≤ c.toNat ∧ c.toNat ≤ 122 at h
    omega
  · change 48 ≤ c.toNat ∧ c.toNat ≤ 57 at h
    omega
  · simp at hblank

theorem replaceRest_of_isPlain (h : ∀ c ∈ token, isPlain c = true) :
    e.replaceRest false token = token := by
  induction token with
  | nil => rfl
  | cons c rest ih =>
    obtain ⟨hc, hrest⟩ := List.forall_mem_cons.mp h
    rw [replaceRest, if_neg (by simp [isBlank_of_isPlain hc]), if_pos hc, ih hrest]
    rfl

theorem IsIdentifier.replaceIllegal (h : IsIdentifier token) : e.replaceIllegal token = token := by
  cases token with
  | nil => rfl
  | cons c rest =>
    have hdigit : Text.isAsciiDigit c = false := by
      simpa [Text.isAsciiDigit] using h.start c rfl
    rw [Encoder.replaceIllegal, hdigit, if_neg Bool.false_ne_true]
    exact replaceRest_of_isPlain fun c hc => isPlain_iff.mpr (h.chars c hc)

theorem length_lt_strop (haffixed : e.stropBefore ++ e.stropAfter ≠ [])
    (h : e.isReserved token = true) : token.length < (e.strop token).length := by
  have hlength := List.length_pos_of_ne_nil haffixed
  rw [strop, if_pos h]
  simp only [List.length_append] at hlength ⊢
  omega

theorem one_lt_length_encodeChar_underscore (e : Encoder) : 1 < (e.encodeChar '_').length := by
  rw [encodeChar_underscore_eq]
  simp

theorem length_le_correctStart (e : Encoder) (token : List Char) :
    token.length ≤ (e.correctStart token).length := by
  have hcode := e.one_lt_length_encodeChar_underscore
  rcases e.correctStart_cases token with ⟨-, hsame⟩ | ⟨rest, hcorrects, hresult⟩
  · rw [hsame]
  · rw [hresult]
    cases hcorrects
    all_goals split
    all_goals simp only [List.length_cons, List.length_append]
    all_goals omega

theorem correctStart_eq_self_iff : e.correctStart token = token ↔ ¬ IllegalStart token := by
  have hcode := e.one_lt_length_encodeChar_underscore
  rw [illegalStart_iff, not_not]
  rcases e.correctStart_cases token with ⟨hfree, hsame⟩ | ⟨rest, hcorrects, hresult⟩
  · exact iff_of_true hsame hfree
  · rw [hresult]
    cases hcorrects with
    | underscore rest =>
      refine iff_of_false (fun heq => ?_) (by simp [guardedStart?])
      have hlength := congrArg List.length heq
      split at hlength
      all_goals simp only [List.length_cons, List.length_append] at hlength
      all_goals omega
    | @capital c hc rest =>
      have hunguarded : guardedStart? ('_' :: c :: rest) ≠ none :=
        illegalStart_iff.mp (Or.inr ⟨c, isUpper_iff.mp hc, by simp⟩)
      refine iff_of_false (fun heq => ?_) hunguarded
      split at heq
      · have hlength := congrArg List.length heq
        simp only [List.length_cons, List.length_append] at hlength
        omega
      · have hsame : c.toLower = c := by simpa using heq
        have hlower := isUpper_eq_false_of_isLower (isLower_toLower hc)
        rw [hsame, hc] at hlower
        cases hlower

/-- Splitting leads to no token that is as long as the text but for the text itself. -/
theorem splitUnderscores_eq_iff {text : List Char} (hlength : token.length ≤ text.length) :
    e.splitUnderscores text = token ↔ text = token ∧ Spaced token := by
  by_cases hspaced : Spaced text
  · rw [splitUnderscores_of_spaced hspaced, iff_self_and]
    rintro rfl
    exact hspaced
  · have hlonger := length_lt_splitUnderscores (e := e) hspaced
    refine iff_of_false ?_ ?_
    · rintro rfl
      exact absurd hlonger (Nat.not_lt.mpr hlength)
    · rintro ⟨rfl, htoken⟩
      exact hspaced htoken

end Steps

section Whole

/-- The start is only corrected where starts are guarded. -/
def withStart (e : Encoder) (text : List Char) : List Char :=
  if e.guardStart then e.correctStart text else text

theorem length_le_withStart (e : Encoder) (text : List Char) :
    text.length ≤ (e.withStart text).length := by
  unfold withStart
  split
  · exact e.length_le_correctStart text
  · exact le_rfl

theorem withStart_eq_self_iff :
    e.withStart token = token ↔ (e.guardStart = true → ¬ IllegalStart token) := by
  unfold withStart
  split
  · simp [*, correctStart_eq_self_iff]
  · simp [*]

/-- Underscores are only split where the language has it so. -/
def withSplit (e : Encoder) (text : List Char) : List Char :=
  if e.splitDouble then e.splitUnderscores text else text

theorem withSplit_eq_iff {text : List Char} (hlength : token.length ≤ text.length) :
    e.withSplit text = token ↔ text = token ∧ (e.splitDouble = true → Spaced token) := by
  unfold withSplit
  split
  · simp [*, splitUnderscores_eq_iff hlength]
  · simp [*]

theorem encodeChars_of_enabled (henabled : e.enabled = true) (token : List Char) :
    e.encodeChars token = e.withSplit (e.withStart (e.strop (e.replaceIllegal token))) := by
  simp only [encodeChars, henabled, if_true, withSplit, withStart]

theorem IsIdentifier.encodeChars_eq_self_iff (h : IsIdentifier token) (henabled : e.enabled = true)
    (haffixed : e.stropBefore ++ e.stropAfter ≠ []) :
    e.encodeChars token = token ↔ e.isReserved token = false ∧
      (e.guardStart = true → ¬ IllegalStart token) ∧ (e.splitDouble = true → Spaced token) := by
  rw [encodeChars_of_enabled henabled, h.replaceIllegal]
  rcases e.strop_cases token with ⟨hreserved, -⟩ | ⟨hfree, hstrop⟩
  · have hlonger := (length_lt_strop haffixed hreserved).trans_le (e.length_le_withStart _)
    rw [withSplit_eq_iff hlonger.le]
    refine iff_of_false ?_ (by simp [hreserved])
    rintro ⟨hsame, -⟩
    rw [hsame] at hlonger
    exact lt_irrefl _ hlonger
  · rw [hstrop, withSplit_eq_iff (e.length_le_withStart token), withStart_eq_self_iff,
      and_iff_right hfree]

/-- Tokens that are no identifiers change, as what they are encoded to is one. -/
theorem encodeChars_eq_self_iff (hplain : e.PlainAffixes) (henabled : e.enabled = true)
    (hmark : StartsName e.codeMark) (hbefore : e.stropBefore = [] ∨ StartsName e.stropBefore)
    (haffixed : e.stropBefore ++ e.stropAfter ≠ []) (htoken : token ≠ []) :
    e.encodeChars token = token ↔ IsIdentifier token ∧ e.isReserved token = false ∧
      (e.guardStart = true → ¬ IllegalStart token) ∧ (e.splitDouble = true → Spaced token) := by
  have hidentifier : IsIdentifier (e.encodeChars token) :=
    isIdentifier_of_startsName (hplain.encodeChars henabled)
      (startsName_encodeChars henabled hmark hbefore htoken)
  constructor
  · intro heq
    rw [heq] at hidentifier
    exact ⟨hidentifier, (hidentifier.encodeChars_eq_self_iff henabled haffixed).mp heq⟩
  · rintro ⟨hsame, hkept⟩
    exact (hsame.encodeChars_eq_self_iff henabled haffixed).mpr hkept

end Whole

section Builtin

theorem exists_isFor (t : Target) : ∃ e : Encoder, e.IsFor t := by
  cases t with
  | c => exact exists_cFamily_c.imp fun _ he => he.1
  | cpp => exact exists_cFamily_cpp.imp fun _ he => he.1
  | python => exact exists_python.imp fun _ he => he.1
  | javaScript => exact exists_javaScript.imp fun _ he => he.1

/-- Whether rules set tokens apart by one underscore and codes by one mark, and whether they guard
starts and split underscores where the language does. -/
def encodesFor (t : Target) (rules : IdentifierRules) : Bool :=
  rules.codeMark.toList == ['Z', 'X'] && rules.stropBefore.toList ++ rules.stropAfter.toList == ['_']
    && rules.guardStart == decide (t = .c ∨ t = .cpp) && rules.splitDouble == decide (t = .cpp)

theorem encodesFor_table (t : Target) :
    (Rules.languageRules? t.table).all (fun rules => encodesFor t rules.identifiers) = true := by
  cases t <;> decide +kernel

structure StepsFor (e : Encoder) (t : Target) : Prop where
  plain : e.PlainAffixes
  enabled : e.enabled = true
  mark : e.codeMark = ['Z', 'X']
  affixes : e.stropBefore ++ e.stropAfter = ['_']
  guardStart : e.guardStart = true ↔ t = .c ∨ t = .cpp
  splitDouble : e.splitDouble = true ↔ t = .cpp

theorem IsFor.stepsFor {t : Target} (he : e.IsFor t) : e.StepsFor t := by
  obtain ⟨rules, hload, he⟩ := he
  have hplain := plainAffixes_of_load hload he
  have hstropping := (Target.regular_of_load hload).stropping
  have htest := Target.of_load hload (encodesFor_table t)
  simp only [encodesFor, Bool.and_eq_true, beq_iff_eq] at htest
  obtain ⟨⟨⟨hmark, haffixes⟩, hguard⟩, hsplit⟩ := htest
  obtain ⟨patterns, -, rfl⟩ := ofLanguage_eq_ok he
  exact ⟨hplain, hstropping, hmark, haffixes, by simp [hguard], by simp [hsplit]⟩

theorem StepsFor.before {t : Target} (h : e.StepsFor t) :
    e.stropBefore = [] ∨ StartsName e.stropBefore := by
  rcases List.append_eq_singleton_iff.mp h.affixes with ⟨hbefore, -⟩ | ⟨hbefore, -⟩
  · exact Or.inl hbefore
  · rw [hbefore]
    exact Or.inr (startsName_underscore [])

/-- In the built-in languages, encoding leaves alone the empty token and all identifiers that are
legal: not reserved, with no guarded start in C and C++, and with no doubled underscore in C++. It
changes all other tokens. -/
theorem encode_eq_self_iff (t : Target) : ∃ e : Encoder, e.IsFor t ∧ ∀ token : String,
    (e.encode token = token ↔ token = "" ∨ IsIdentifier token.toList ∧
      e.isReserved token.toList = false ∧ (t = .c ∨ t = .cpp → ¬ IllegalStart token.toList) ∧
        (t = .cpp → ¬ ['_', '_'] <:+: token.toList)) := by
  obtain ⟨e, he⟩ := exists_isFor t
  have hsteps := he.stepsFor
  refine ⟨e, he, fun token => ?_⟩
  by_cases hempty : token = ""
  · subst hempty
    exact iff_of_true (encode_empty he.isReserved_nil) (Or.inl rfl)
  · have hmark : StartsName e.codeMark := hsteps.mark ▸ ⟨'Z', ['X'], rfl, rfl⟩
    have haffixed : e.stropBefore ++ e.stropAfter ≠ [] := by simp [hsteps.affixes]
    have hchars : e.encode token = token ↔ e.encodeChars token.toList = token.toList := by
      rw [← String.toList_inj, encode, String.toList_ofList]
    rw [hchars, encodeChars_eq_self_iff hsteps.plain hsteps.enabled hmark hsteps.before haffixed
      (by simpa using hempty), hsteps.guardStart, hsteps.splitDouble, spaced_iff,
      or_iff_right hempty]

end Builtin

end SchemaForge.Encoder
