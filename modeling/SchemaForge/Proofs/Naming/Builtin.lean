import Mathlib.Tactic.Common
import SchemaForge.Naming.Encoder
import SchemaForge.Proofs.Pattern.Shapes
import SchemaForge.Target.Builtin

/-! The encoders of the built-in languages. Their rules load, their patterns compile, and what these
patterns and the lists of words reserve is known. -/

namespace SchemaForge

theorem RuleDraft.load_eq_ok {draft : RuleDraft} {rules : LanguageRules}
    (h : draft.load = .ok rules) :
    Rules.languageRules? draft.table = some rules ∧ Rules.fault? rules = none := by
  unfold load at h
  split at h
  · cases h
  · rename_i hread
    split at h
    · cases h
    · rename_i hfault
      cases h
      exact ⟨hread, hfault⟩

namespace Rules

theorem mem_insertWord {word w : String} {words : List String} :
    w ∈ insertWord word words ↔ w = word ∨ w ∈ words := by
  induction words with
  | nil => simp [insertWord]
  | cons v rest ih =>
    unfold insertWord
    split_ifs with hless hsame
    · simp
    · subst hsame
      simp
    · simp only [List.mem_cons, ih]
      exact or_left_comm

theorem mem_sortedWords {w : String} {words : List String} : w ∈ sortedWords words ↔ w ∈ words := by
  have hfold : ∀ acc, w ∈ words.foldl (fun acc v => insertWord v acc) acc ↔ w ∈ acc ∨ w ∈ words := by
    induction words with
    | nil => simp
    | cons v rest ih =>
      intro acc
      rw [List.foldl_cons, ih, mem_insertWord, List.mem_cons]
      tauto
  simpa [sortedWords] using hfold []

def listedWords (t : Toml.Table) : List String :=
  (((t.lookup "identifiers").bind (section? identifierFields)).bind fun ids =>
    (ids.lookup "reserved_identifiers").bind strings?).getD []

theorem identifierRules?_eq_some {v : Toml.Value} {ids : IdentifierRules}
    (h : identifierRules? v = some ids) : ∃ t words, section? identifierFields v = some t ∧
      field strings? t "reserved_identifiers" [] = some words ∧
      ids.reservedWords = sortedWords words := by
  unfold identifierRules? at h
  simp only [Option.bind_eq_bind, Option.bind_eq_some_iff] at h
  obtain ⟨t, ht, _, -, _, -, _, -, _, -, _, -, _, -, words, hwords, _, -, hids⟩ := h
  cases hids
  exact ⟨t, words, ht, hwords, rfl⟩

theorem languageRules?_eq_some {t : Toml.Table} {rules : LanguageRules}
    (h : languageRules? t = some rules) :
    field identifierRules? t "identifiers" {} = some rules.identifiers := by
  unfold languageRules? at h
  simp only [Option.bind_eq_bind, Option.bind_eq_some_iff] at h
  obtain ⟨entries, hentries, language, -, ids, hids, types, -, values, -, options, -, hrules⟩ := h
  cases hrules
  simp only [section?] at hentries
  split at hentries
  · cases hentries
    exact hids
  · cases hentries

theorem mem_reservedWords {t : Toml.Table} {rules : LanguageRules}
    (h : languageRules? t = some rules) {w : String} :
    w ∈ rules.identifiers.reservedWords ↔ w ∈ listedWords t := by
  have hids := languageRules?_eq_some h
  unfold field at hids
  unfold listedWords
  split at hids
  · rename_i v hlookup
    obtain ⟨ids, words, hsection, hwords, hsorted⟩ := identifierRules?_eq_some hids
    rw [hsorted, mem_sortedWords, hlookup]
    unfold field at hwords
    split at hwords
    · rename_i listed hlisted
      simp [hsection, hlisted, hwords]
    · rename_i hlisted
      cases hwords
      simp [hsection, hlisted]
  · rename_i hlookup
    rw [← Option.some.inj hids]
    simp [hlookup]

end Rules

namespace Target

theorem of_load {t : Target} {rules : LanguageRules} (h : t.draft.load = .ok rules)
    {test : LanguageRules → Bool} (htest : (Rules.languageRules? t.table).all test = true) :
    test rules = true := by
  have hrules : Rules.languageRules? t.table = some rules := (RuleDraft.load_eq_ok h).1
  rwa [hrules] at htest

end Target

namespace Encoder

open Pattern (Shape)

theorem ofRules_eq_ok {e : Encoder} {rules : IdentifierRules} (h : ofRules rules = .ok e) :
    ∃ patterns, rules.reservedPatterns.mapM compile = .ok patterns ∧
      e = {
        enabled := true
        stropBefore := rules.stropBefore.toList
        stropAfter := rules.stropAfter.toList
        codeMark := rules.codeMark.toList
        guardStart := rules.guardStart
        splitDouble := rules.splitDouble
        words := rules.reservedWords.map String.toList
        patterns } := by
  unfold ofRules at h
  split at h
  · cases h
  · cases hpatterns : rules.reservedPatterns.mapM compile with
    | error _ =>
      rw [hpatterns] at h
      cases h
    | ok patterns =>
      rw [hpatterns] at h
      cases h
      exact ⟨patterns, rfl, rfl⟩

theorem ofLanguage_eq_ok {e : Encoder} {rules : LanguageRules} (h : ofLanguage rules = .ok e) :
    ∃ patterns, rules.identifiers.reservedPatterns.mapM compile = .ok patterns ∧
      e = {
        enabled := rules.language.stropping
        stropBefore := rules.identifiers.stropBefore.toList
        stropAfter := rules.identifiers.stropAfter.toList
        codeMark := rules.identifiers.codeMark.toList
        guardStart := rules.identifiers.guardStart
        splitDouble := rules.identifiers.splitDouble
        words := rules.identifiers.reservedWords.map String.toList
        patterns } := by
  unfold ofLanguage at h
  cases hrules : ofRules rules.identifiers with
  | error _ =>
    rw [hrules] at h
    cases h
  | ok e' =>
    obtain ⟨patterns, hpatterns, rfl⟩ := ofRules_eq_ok hrules
    rw [hrules] at h
    cases h
    exact ⟨patterns, hpatterns, rfl⟩

theorem enabled_of_ofLanguage {e : Encoder} {rules : LanguageRules} (h : ofLanguage rules = .ok e) :
    e.enabled = rules.language.stropping := by
  obtain ⟨patterns, -, rfl⟩ := ofLanguage_eq_ok h
  rfl

/-- The rules of the built-in language load, and this is their encoder. -/
def IsFor (e : Encoder) (t : Target) : Prop :=
  ∃ rules, t.draft.load = .ok rules ∧ ofLanguage rules = .ok e

theorem IsFor.unique {t : Target} {e e' : Encoder} (he : e.IsFor t) (he' : e'.IsFor t) :
    e = e' := by
  obtain ⟨rules, hload, he⟩ := he
  obtain ⟨rules', hload', he'⟩ := he'
  obtain rfl : rules = rules' := Except.ok.inj (hload.symm.trans hload')
  exact Except.ok.inj (he.symm.trans he')

def passes (t : Target) (test : Encoder → Bool) : Bool :=
  match t.draft.load with
  | .ok rules =>
    match ofLanguage rules with
    | .ok e => test e
    | .error _ => false
  | .error _ => false

theorem exists_of_passes {t : Target} {test : Encoder → Bool} (h : passes t test = true) :
    ∃ e : Encoder, e.IsFor t ∧ test e = true := by
  unfold passes at h
  split at h
  · rename_i rules hload
    split at h
    · rename_i e he
      exact ⟨e, ⟨rules, hload, he⟩, h⟩
    · cases h
  · cases h

theorem IsFor.mem_words {t : Target} {e : Encoder} (he : e.IsFor t) {w : List Char} :
    w ∈ e.words ↔ String.ofList w ∈ Rules.listedWords t.table := by
  obtain ⟨rules, hload, he⟩ := he
  obtain ⟨patterns, -, rfl⟩ := ofLanguage_eq_ok he
  have hlisted : t.draft.table = t.table := rfl
  simp only [List.mem_map, Rules.mem_reservedWords (RuleDraft.load_eq_ok hload).1, hlisted]
  constructor
  · rintro ⟨word, hword, rfl⟩
    rwa [String.ofList_toList]
  · exact fun hword => ⟨_, hword, String.toList_ofList⟩

theorem IsFor.words {t : Target} {e : Encoder} (he : e.IsFor t) {test : List Char → Bool}
    (h : (Rules.listedWords t.table).all (fun w => test w.toList) = true) :
    ∀ w ∈ e.words, test w = true := by
  intro w hw
  have hword := List.all_eq_true.mp h _ (he.mem_words.mp hw)
  rwa [String.toList_ofList] at hword

section CFamily

def upper : Pattern.CharClass :=
  .range 'A' 'Z'

def cShapes : List Shape := [
  .stems (["is", "to", "str", "mem", "wcs", "atomic_", "cnd_", "mtx_", "thrd_", "tss_", "memory_",
    "memory_order_"].map String.toList) (.range 'a' 'z'),
  .between 'u' "int".toList ["t".toList],
  .run "E".toList (.union upper (.union (.range '0' '9') .none)),
  .stem "FE_".toList upper,
  .between 'U' "INT".toList ["MAX".toList, "MIN".toList, "C".toList],
  .stems ["PRI".toList, "SCN".toList] (.union (.range 'a' 'z') (.union (.single 'X') .none)),
  .stem "LC_".toList upper,
  .joined "SIG".toList upper,
  .stem "TIME_".toList upper,
  .stem "ATOMIC_".toList upper]

/-- No word has a capital in front or the first letter of the mark, and an underscore in front is
part of a guarded start. -/
def isCWord (w : List Char) : Bool :=
  !w.contains 'Z' && !w.head?.any Char.isUpper && (w.head? != some '_' || (guardedStart? w).isSome)

/-- An encoder with the affixes, patterns and kinds of words of the C family. -/
structure CFamily (e : Encoder) : Prop where
  enabled : e.enabled = true
  stropBefore : e.stropBefore = ['_']
  codeMark : e.codeMark = ['Z', 'X']
  guardStart : e.guardStart = true
  patterns : e.patterns = cShapes.map fun s => Pattern.atStart s.body
  words : ∀ w ∈ e.words, isCWord w = true

def isC (splitDouble : Bool) (e : Encoder) : Bool :=
  e.enabled && e.stropBefore == ['_'] && e.codeMark == ['Z', 'X'] && e.guardStart
    && e.splitDouble == splitDouble
    && decide (e.patterns = cShapes.map fun s => Pattern.atStart s.body)

theorem CFamily.of_load {t : Target} {splitDouble : Bool} (h : passes t (isC splitDouble) = true)
    (hwords : (Rules.listedWords t.table).all (fun w => isCWord w.toList) = true) :
    ∃ e : Encoder, e.IsFor t ∧ e.CFamily ∧ e.splitDouble = splitDouble := by
  obtain ⟨e, he, htest⟩ := exists_of_passes h
  simp only [isC, Bool.and_eq_true, beq_iff_eq, decide_eq_true_eq] at htest
  obtain ⟨⟨⟨⟨⟨henabled, hbefore⟩, hmark⟩, hguard⟩, hsplit⟩, hpatterns⟩ := htest
  exact ⟨e, he, ⟨henabled, hbefore, hmark, hguard, hpatterns, he.words hwords⟩, hsplit⟩

theorem exists_cFamily_c : ∃ e : Encoder, e.IsFor Target.c ∧ e.CFamily ∧ e.splitDouble = false :=
  CFamily.of_load (by decide +kernel) (by decide +kernel)

theorem exists_cFamily_cpp :
    ∃ e : Encoder, e.IsFor Target.cpp ∧ e.CFamily ∧ e.splitDouble = true :=
  CFamily.of_load (by decide +kernel) (by decide +kernel)

end CFamily

/-- The encoder of JavaScript reserves words only, none of which has an underscore in front, and
leaves starts and doubled underscores alone. -/
theorem exists_javaScript : ∃ e : Encoder, e.IsFor Target.javaScript ∧ e.enabled = true ∧
    e.stropBefore = ['_'] ∧ e.guardStart = false ∧ e.splitDouble = false ∧ e.patterns = [] ∧
      ∀ w ∈ e.words, w.head? ≠ some '_' := by
  obtain ⟨e, he, htest⟩ := exists_of_passes
    (show passes Target.javaScript (fun e => e.enabled && e.stropBefore == ['_'] && !e.guardStart
      && !e.splitDouble && e.patterns.isEmpty) = true by decide +kernel)
  have hwords : ∀ w ∈ e.words, (w.head? != some '_') = true :=
    he.words (by decide +kernel)
  simp only [Bool.and_eq_true, beq_iff_eq, Bool.not_eq_true', List.isEmpty_iff] at htest
  obtain ⟨⟨⟨⟨henabled, hbefore⟩, hguard⟩, hsplit⟩, hpatterns⟩ := htest
  exact ⟨e, he, henabled, hbefore, hguard, hsplit, hpatterns,
    fun w hw => by simpa using hwords w hw⟩

def inLine : Pattern.CharClass :=
  .compl (.single '\n')

/-- The encoder of Python reserves words, none of which begins or ends with an underscore, and the
names between two pairs of underscores; what it reserves gets an underscore at the end. -/
theorem exists_python : ∃ e : Encoder, e.IsFor Target.python ∧ e.enabled = true ∧
    e.stropBefore = [] ∧ e.stropAfter = ['_'] ∧ e.guardStart = false ∧ e.splitDouble = false ∧
      e.patterns = [Pattern.atStart (Pattern.enclosed ['_', '_'] inLine)] ∧
      ∀ w ∈ e.words, w.head? ≠ some '_' ∧ w.getLast? ≠ some '_' := by
  obtain ⟨e, he, htest⟩ := exists_of_passes
    (show passes Target.python (fun e => e.enabled && e.stropBefore.isEmpty && e.stropAfter == ['_']
      && !e.guardStart && !e.splitDouble
      && decide (e.patterns = [Pattern.atStart (Pattern.enclosed ['_', '_'] inLine)])) = true by
        decide +kernel)
  have hwords : ∀ w ∈ e.words, (w.head? != some '_' && w.getLast? != some '_') = true :=
    he.words (by decide +kernel)
  simp only [Bool.and_eq_true, beq_iff_eq, Bool.not_eq_true', List.isEmpty_iff,
    decide_eq_true_eq] at htest
  obtain ⟨⟨⟨⟨⟨henabled, hbefore⟩, hafter⟩, hguard⟩, hsplit⟩, hpatterns⟩ := htest
  exact ⟨e, he, henabled, hbefore, hafter, hguard, hsplit, hpatterns,
    fun w hw => by simpa using hwords w hw⟩

end Encoder

end SchemaForge
