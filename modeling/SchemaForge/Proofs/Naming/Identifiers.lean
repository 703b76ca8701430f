import Mathlib.Tactic.Common
import SchemaForge.Proofs.Naming.Builtin

/-! Encoding makes identifiers. Under rules that a rule table may have, every step keeps to plain
characters, and with a mark and an affix that start no number no step puts a digit in front. -/

namespace SchemaForge

theorem Rules.affixes_of_fault?_none {rules : LanguageRules} (h : fault? rules = none) :
    ∀ affix ∈ affixes rules.identifiers, ∀ c ∈ affix.2.toList, isIdentifierChar c = true := by
  unfold fault? at h
  split_ifs at h
  dsimp only at h
  split at h
  · cases h
  · rename_i hnone
    intro affix haffix
    simpa using List.find?_eq_none.mp hnone affix haffix

namespace Encoder

variable {e : Encoder} {token : List Char}

structure PlainAffixes (e : Encoder) : Prop where
  before : ∀ c ∈ e.stropBefore, isPlain c = true
  after : ∀ c ∈ e.stropAfter, isPlain c = true
  mark : ∀ c ∈ e.codeMark, isPlain c = true

theorem plainAffixes_of_load {draft : RuleDraft} {rules : LanguageRules}
    (hload : draft.load = .ok rules) (he : ofLanguage rules = .ok e) : e.PlainAffixes := by
  obtain ⟨patterns, -, rfl⟩ := ofLanguage_eq_ok he
  have haffixes := Rules.affixes_of_fault?_none (RuleDraft.load_eq_ok hload).2
  constructor
  · exact haffixes ("stropping_prefix", _) (by simp [Rules.affixes])
  · exact haffixes ("stropping_suffix", _) (by simp [Rules.affixes])
  · exact haffixes ("encoding_prefix", _) (by simp [Rules.affixes])

/-- How a guarded start is corrected: a second underscore is encoded, a capital lowered. -/
inductive Corrects (e : Encoder) : List Char → List Char → Prop where
  | underscore (rest : List Char) :
      Corrects e ('_' :: '_' :: rest) ('_' :: (e.encodeChar '_' ++ rest))
  | capital {c : Char} (hc : c.isUpper = true) (rest : List Char) :
      Corrects e ('_' :: c :: rest) ('_' :: c.toLower :: rest)

/-- A start that is not guarded stays; one that is gets corrected, and loses its first underscore
where the corrected token is reserved. -/
theorem correctStart_cases (e : Encoder) (token : List Char) :
    guardedStart? token = none ∧ e.correctStart token = token ∨
    ∃ rest, Corrects e token ('_' :: rest) ∧ e.correctStart token =
      if e.isReserved ('_' :: rest) then e.encodeChar '_' ++ rest else '_' :: rest := by
  unfold correctStart
  cases hstart : guardedStart? token with
  | none => exact Or.inl ⟨rfl, rfl⟩
  | some start =>
    right
    unfold guardedStart? at hstart
    split at hstart
    · rename_i c rest
      split_ifs at hstart with hunderscore hcapital
      · cases hstart
        subst hunderscore
        exact ⟨_, .underscore rest, rfl⟩
      · cases hstart
        exact ⟨_, .capital hcapital rest, rfl⟩
    · cases hstart

section Plain

theorem exists_digitChar_of_mem_toDigits {n : Nat} {c : Char} (h : c ∈ Nat.toDigits 16 n) :
    ∃ d < 16, c = Nat.digitChar d := by
  induction n using Nat.strongRecOn with
  | _ n ih =>
    by_cases hn : n < 16
    · rw [Nat.toDigits_of_lt_base hn] at h
      exact ⟨n, hn, List.mem_singleton.mp h⟩
    · rw [Nat.toDigits_of_base_le (by decide) (by omega), List.mem_append] at h
      rcases h with h | h
      · exact ih (n / 16) (by omega) h
      · exact ⟨n % 16, by omega, List.mem_singleton.mp h⟩

theorem isPlain_of_mem_hexCode {n : Nat} : ∀ c ∈ hexCode n, isPlain c = true := by
  have hdigits : ∀ d < 16, isPlain (Nat.digitChar d).toUpper = true := by decide
  intro c hc
  rcases List.mem_append.mp hc with hc | hc
  · rw [List.eq_of_mem_replicate hc]
    decide
  · obtain ⟨digit, hdigit, rfl⟩ := List.mem_map.mp hc
    obtain ⟨d, hd, rfl⟩ := exists_digitChar_of_mem_toDigits hdigit
    exact hdigits d hd

theorem isLower_toLower {c : Char} (h : c.isUpper = true) : c.toLower.isLower = true := by
  have hall : ∀ k < 26, (Char.ofNat (65 + k)).toLower.isLower = true := by decide
  unfold Char.isUpper at h
  rw [decide_eq_true_eq] at h
  change 65 ≤ c.toNat ∧ c.toNat ≤ 90 at h
  have hcode := hall (c.toNat - 65) (by omega)
  rwa [Nat.add_sub_cancel' h.1, Char.ofNat_toNat] at hcode

theorem isPlain_of_isLower {c : Char} (h : c.isLower = true) : isPlain c = true := by
  unfold isPlain Char.isAlphanum Char.isAlpha
  simp [h]

namespace PlainAffixes

theorem encodeChar (h : e.PlainAffixes) (c : Char) : ∀ d ∈ e.encodeChar c, isPlain d = true := by
  intro d hd
  rcases List.mem_append.mp hd with hd | hd
  · exact h.mark d hd
  · exact isPlain_of_mem_hexCode d hd

theorem replaceRest (h : e.PlainAffixes) (afterBlank : Bool) :
    ∀ c ∈ e.replaceRest afterBlank token, isPlain c = true := by
  induction token generalizing afterBlank with
  | nil => simp [Encoder.replaceRest]
  | cons c rest ih =>
    unfold Encoder.replaceRest
    split
    · rw [List.forall_mem_append]
      refine ⟨?_, ih true⟩
      split
      · simp
      · simpa using (by decide : isPlain '_' = true)
    · rw [List.forall_mem_append]
      refine ⟨?_, ih false⟩
      split
      · simpa
      · exact h.encodeChar c

theorem replaceIllegal (h : e.PlainAffixes) : ∀ c ∈ e.replaceIllegal token, isPlain c = true := by
  cases token with
  | nil => simp [Encoder.replaceIllegal]
  | cons c rest =>
    simp only [Encoder.replaceIllegal]
    split
    · exact List.forall_mem_append.mpr ⟨h.encodeChar c, h.replaceRest false⟩
    · exact h.replaceRest false

theorem strop (h : e.PlainAffixes) (htoken : ∀ c ∈ token, isPlain c = true) :
    ∀ c ∈ e.strop token, isPlain c = true := by
  unfold Encoder.strop
  split
  · rw [List.forall_mem_append, List.forall_mem_append]
    exact ⟨⟨h.before, htoken⟩, h.after⟩
  · exact htoken

theorem corrects (h : e.PlainAffixes) {corrected : List Char} (hcorrects : Corrects e token corrected)
    (htoken : ∀ c ∈ token, isPlain c = true) : ∀ c ∈ corrected, isPlain c = true := by
  cases hcorrects with
  | underscore rest =>
    simp only [List.forall_mem_cons] at htoken ⊢
    exact ⟨htoken.1, List.forall_mem_append.mpr ⟨h.encodeChar '_', htoken.2.2⟩⟩
  | capital hc rest =>
    simp only [List.forall_mem_cons] at htoken ⊢
    exact ⟨htoken.1, isPlain_of_isLower (isLower_toLower hc), htoken.2.2⟩

theorem correctStart (h : e.PlainAffixes) (htoken : ∀ c ∈ token, isPlain c = true) :
    ∀ c ∈ e.correctStart token, isPlain c = true := by
  rcases e.correctStart_cases token with ⟨-, hsame⟩ | ⟨rest, hcorrects, hresult⟩
  · rwa [hsame]
  · have hcorrected := h.corrects hcorrects htoken
    rw [hresult]
    split
    · exact List.forall_mem_append.mpr ⟨h.encodeChar '_', (List.forall_mem_cons.mp hcorrected).2⟩
    · exact hcorrected

theorem splitUnderscores (h : e.PlainAffixes) (htoken : ∀ c ∈ token, isPlain c = true) :
    ∀ c ∈ e.splitUnderscores token, isPlain c = true := by
  fun_induction Encoder.splitUnderscores e token with
  | case1 rest ih =>
    simp only [List.cons_append, List.forall_mem_cons, List.forall_mem_append] at htoken ⊢
    exact ⟨htoken.1, h.encodeChar '_', ih htoken.2.2⟩
  | case2 c rest _ ih =>
    simp only [List.forall_mem_cons] at htoken ⊢
    exact ⟨htoken.1, ih htoken.2⟩
  | case3 => exact htoken

theorem encodeChars (h : e.PlainAffixes) (henabled : e.enabled = true) :
    ∀ c ∈ e.encodeChars token, isPlain c = true := by
  have hstropped : ∀ c ∈ e.strop (e.replaceIllegal token), isPlain c = true :=
    h.strop h.replaceIllegal
  have hcorrected : ∀ c ∈ if e.guardStart then e.correctStart (e.strop (e.replaceIllegal token))
      else e.strop (e.replaceIllegal token), isPlain c = true := by
    split
    · exact h.correctStart hstropped
    · exact hstropped
  unfold Encoder.encodeChars
  rw [if_pos henabled]
  dsimp only
  split
  · exact h.splitUnderscores hcorrected
  · exact hcorrected

end PlainAffixes

end Plain

section Start

def StartsName (text : List Char) : Prop :=
  ∃ c rest, text = c :: rest ∧ Text.isAsciiDigit c = false

theorem StartsName.append {more : List Char} (h : StartsName token) : StartsName (token ++ more) := by
  obtain ⟨c, rest, rfl, hc⟩ := h
  exact ⟨c, rest ++ more, rfl, hc⟩

theorem startsName_encodeChar (hmark : StartsName e.codeMark) (c : Char) (rest : List Char) :
    StartsName (e.encodeChar c ++ rest) := by
  unfold encodeChar
  rw [List.append_assoc]
  exact hmark.append

theorem startsName_underscore (rest : List Char) : StartsName ('_' :: rest) :=
  ⟨'_', rest, rfl, rfl⟩

theorem startsName_replaceIllegal (hmark : StartsName e.codeMark) (htoken : token ≠ []) :
    StartsName (e.replaceIllegal token) := by
  cases token with
  | nil => exact absurd rfl htoken
  | cons c rest =>
    simp only [replaceIllegal]
    split
    · exact startsName_encodeChar hmark c _
    · rename_i hdigit
      unfold replaceRest
      split
      · exact startsName_underscore _
      · split
        · exact ⟨c, _, rfl, Bool.eq_false_iff.mpr hdigit⟩
        · exact startsName_encodeChar hmark c _

theorem startsName_strop (hbefore : e.stropBefore = [] ∨ StartsName e.stropBefore)
    (htoken : StartsName token) : StartsName (e.strop token) := by
  unfold strop
  split
  · rcases hbefore with hnone | hbefore
    · rw [hnone]
      exact htoken.append
    · exact hbefore.append.append
  · exact htoken

theorem startsName_correctStart (hmark : StartsName e.codeMark) (htoken : StartsName token) :
    StartsName (e.correctStart token) := by
  rcases e.correctStart_cases token with ⟨-, hsame⟩ | ⟨rest, -, hresult⟩
  · rwa [hsame]
  · rw [hresult]
    split
    · exact startsName_encodeChar hmark '_' rest
    · exact startsName_underscore rest

theorem startsName_splitUnderscores (htoken : StartsName token) :
    StartsName (e.splitUnderscores token) := by
  obtain ⟨c, rest, rfl, hc⟩ := htoken
  unfold splitUnderscores
  split
  · exact startsName_underscore _
  · exact ⟨_, _, rfl, by simp_all⟩
  · contradiction

theorem startsName_encodeChars (henabled : e.enabled = true) (hmark : StartsName e.codeMark)
    (hbefore : e.stropBefore = [] ∨ StartsName e.stropBefore) (htoken : token ≠ []) :
    StartsName (e.encodeChars token) := by
  have hstropped := startsName_strop hbefore (startsName_replaceIllegal hmark htoken)
  have hcorrected : StartsName (if e.guardStart then
      e.correctStart (e.strop (e.replaceIllegal token)) else e.strop (e.replaceIllegal token)) := by
    split
    · exact startsName_correctStart hmark hstropped
    · exact hstropped
  unfold encodeChars
  rw [if_pos henabled]
  dsimp only
  split
  · exact startsName_splitUnderscores hcorrected
  · exact hcorrected

end Start

/-- Letters, digits and underscores, at least one of them, and no digit in front. -/
structure IsIdentifier (text : List Char) : Prop where
  nonempty : text ≠ []
  chars : ∀ c ∈ text, 'A' ≤ c ∧ c ≤ 'Z' ∨ 'a' ≤ c ∧ c ≤ 'z' ∨ '0' ≤ c ∧ c ≤ '9' ∨ c = '_'
  start : ∀ c, text.head? = some c → ¬ ('0' ≤ c ∧ c ≤ '9')

theorem isPlain_iff {c : Char} : isPlain c = true ↔
    'A' ≤ c ∧ c ≤ 'Z' ∨ 'a' ≤ c ∧ c ≤ 'z' ∨ '0' ≤ c ∧ c ≤ '9' ∨ c = '_' := by
  unfold isPlain Char.isAlphanum Char.isAlpha Char.isUpper Char.isLower Char.isDigit
  simp [or_assoc, Char.le_def]

theorem isIdentifier_of_startsName (hplain : ∀ c ∈ token, isPlain c = true)
    (hstart : StartsName token) : IsIdentifier token := by
  obtain ⟨first, rest, rfl, hfirst⟩ := hstart
  refine ⟨List.cons_ne_nil _ _, fun c hc => isPlain_iff.mp (hplain c hc), ?_⟩
  rintro c hc hdigit
  obtain rfl : first = c := Option.some.inj hc
  simp [Text.isAsciiDigit, hdigit] at hfirst

end Encoder

end SchemaForge
