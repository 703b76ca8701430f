import SchemaForge.Proofs.Naming.Reserved

/-! Doubled underscores are split last, after names have been checked. The code of the second
underscore starts with a capital, so that a name can become reserved: where a stem that reserves
capitals after one underscore is followed by two. This is the only way. -/

namespace SchemaForge.Encoder

open Pattern (Shape Tail)

variable {e : Encoder} {token text : List Char}

theorem splitUnderscores_cons_of_ne {c : Char} (hc : c ≠ '_') :
    e.splitUnderscores (c :: text) = c :: e.splitUnderscores text := by
  rw [splitUnderscores]
  rintro rest rfl
  exact absurd rfl hc

theorem splitUnderscores_append {word : List Char} (hword : '_' ∉ word) :
    e.splitUnderscores (word ++ text) = word ++ e.splitUnderscores text := by
  induction word with
  | nil => rfl
  | cons c word ih =>
    rw [List.mem_cons, not_or] at hword
    rw [List.cons_append, splitUnderscores_cons_of_ne (Ne.symm hword.1), ih hword.2,
      List.cons_append]

theorem correctStart_of_ne {c : Char} (hc : c ≠ '_') : e.correctStart (c :: text) = c :: text := by
  rcases e.correctStart_cases (c :: text) with ⟨-, hsame⟩ | ⟨rest, hcorrects, -⟩
  · exact hsame
  · cases hcorrects <;> exact absurd rfl hc

theorem exists_of_append_eq {word rest front after : List Char} (hword : '_' ∉ word)
    (h : word ++ rest = front ++ '_' :: after) : ∃ more, rest = more ++ '_' :: after := by
  rcases List.append_eq_append_iff.mp h with ⟨more, -, hrest⟩ | ⟨more, hmore, hrest⟩
  · exact ⟨more, hrest⟩
  · cases more with
    | nil => exact ⟨[], hrest.symm⟩
    | cons c more =>
      cases hrest
      exact absurd (hmore ▸ by simp) hword

theorem contains_nameChars {c : Char} : Pattern.nameChars.contains c = true ↔ isPlain c = true := by
  rw [isPlain_iff]
  simp only [Pattern.nameChars, Pattern.CharClass.contains, Pattern.CharClass.contains_single,
    Bool.or_eq_true, Bool.and_eq_true, decide_eq_true_eq, Bool.false_eq_true, or_false]
  tauto

namespace CFamily

theorem encodeChar_underscore (h : e.CFamily) :
    e.encodeChar '_' = ['Z', 'X', '0', '0', '5', 'F'] := by
  rw [encodeChar, h.codeMark]
  decide

/-- Up to the first mark, splitting changes nothing; the mark comes after an underscore that stands
before another. -/
theorem prefix_of_split (h : e.CFamily) {start : List Char} {c : Char} (hstart : 'Z' ∉ start)
    (hsplit : start ++ [c] <+: e.splitUnderscores text) :
    start ++ [c] <+: text ∨
      c = 'Z' ∧ ∃ stem, start = stem ++ ['_'] ∧ stem ++ ['_', '_'] <+: text := by
  fun_induction Encoder.splitUnderscores e text generalizing start with
  | case1 rest ih =>
    -- The mark is the second character of a split pair, so that the start ends before it.
    rw [h.encodeChar_underscore] at hsplit
    cases start with
    | nil =>
      simp only [List.nil_append, List.cons_append, List.cons_prefix_cons] at hsplit
      exact Or.inl (by simp [hsplit.1])
    | cons d start =>
      cases start with
      | nil =>
        simp only [List.cons_append, List.nil_append, List.cons_prefix_cons] at hsplit
        obtain ⟨rfl, rfl, -⟩ := hsplit
        exact Or.inr ⟨rfl, [], rfl, by simp⟩
      | cons d' start =>
        simp only [List.cons_append, List.cons_prefix_cons] at hsplit
        simp [hsplit.2.1] at hstart
  | case2 d rest _ ih =>
    cases start with
    | nil =>
      simp only [List.nil_append, List.cons_prefix_cons] at hsplit
      exact Or.inl (by simp [hsplit.1])
    | cons d' start =>
      simp only [List.cons_append, List.cons_prefix_cons] at hsplit
      obtain ⟨rfl, hsplit⟩ := hsplit
      rcases ih (fun hmem => hstart (List.mem_cons_of_mem _ hmem)) hsplit with
        hsame | ⟨hc, stem, rfl, hstem⟩
      · exact Or.inl (by simpa using hsame)
      · exact Or.inr ⟨hc, d' :: stem, rfl, by simpa using hstem⟩
  | case3 => simp at hsplit

theorem prefix_of_split_of_notMem (h : e.CFamily) {word : List Char} (hword : 'Z' ∉ word)
    (hsplit : word <+: e.splitUnderscores text) : word <+: text := by
  rcases List.eq_nil_or_concat word with rfl | ⟨start, c, rfl⟩
  · exact List.nil_prefix
  · simp only [List.concat_eq_append, List.mem_append, List.mem_singleton, not_or] at hword hsplit ⊢
    rcases h.prefix_of_split hword.1 hsplit with hsame | ⟨rfl, -⟩
    · exact hsame
    · exact absurd rfl hword.2

theorem splitUnderscores_eq_or_mem (h : e.CFamily) (text : List Char) :
    e.splitUnderscores text = text ∨ 'Z' ∈ e.splitUnderscores text := by
  fun_induction Encoder.splitUnderscores e text with
  | case1 rest _ => simp [h.encodeChar_underscore]
  | case2 c rest _ ih =>
    rcases ih with hsame | hmem
    · exact Or.inl (by rw [hsame])
    · exact Or.inr (List.mem_cons_of_mem _ hmem)
  | case3 => exact Or.inl rfl

theorem exists_of_split_eq (h : e.CFamily) {front after : List Char} {c : Char} (hc : c ≠ 'Z')
    (hsplit : e.splitUnderscores text = front ++ '_' :: c :: after) :
    ∃ front' after', text = front' ++ '_' :: c :: after' ∧ e.splitUnderscores after' = after := by
  fun_induction Encoder.splitUnderscores e text generalizing front with
  | case1 rest ih =>
    cases front with
    | nil =>
      rw [h.encodeChar_underscore] at hsplit
      simp only [List.cons_append, List.nil_append, List.cons.injEq] at hsplit
      exact absurd hsplit.2.1.symm hc
    | cons d front =>
      simp only [List.cons_append, List.cons.injEq] at hsplit
      have hcode : '_' ∉ e.encodeChar '_' := by
        rw [h.encodeChar_underscore]
        decide
      obtain ⟨more, hmore⟩ := exists_of_append_eq hcode hsplit.2
      obtain ⟨front', after', rfl, hafter⟩ := ih hmore
      exact ⟨'_' :: '_' :: front', after', rfl, hafter⟩
  | case2 d rest hpair ih =>
    cases front with
    | nil =>
      simp only [List.nil_append, List.cons.injEq] at hsplit
      obtain ⟨rfl, hsplit⟩ := hsplit
      cases rest with
      | nil => simp [splitUnderscores] at hsplit
      | cons d rest =>
        have hd : d ≠ '_' := by
          rintro rfl
          exact hpair rest rfl rfl
        rw [splitUnderscores_cons_of_ne hd] at hsplit
        cases hsplit
        exact ⟨[], rest, rfl, rfl⟩
    | cons d' front =>
      simp only [List.cons_append, List.cons.injEq] at hsplit
      obtain ⟨front', after', rfl, hafter⟩ := ih hsplit.2
      exact ⟨d :: front', after', rfl, hafter⟩
  | case3 => simp at hsplit

def openStems : List String :=
  ["FE", "LC", "SIG", "TIME", "ATOMIC"]

theorem mem_openStems {shape : Shape} {stem : List Char} {next : Pattern.CharClass}
    (hshape : shape ∈ cShapes) (htail : shape.tail = .next next) (hnext : next.contains 'Z' = true)
    (hstem : stem ++ ['_'] ∈ shape.starts) : String.ofList stem ∈ openStems := by
  have hopen : ∀ shape ∈ cShapes, ∀ start ∈ shape.starts, (shape.tail.takes 'Z' &&
      start.getLast? == some '_') = true → String.ofList start.dropLast ∈ openStems := by
    decide
  have hmem := hopen shape hshape _ hstem (by simp [htail, Tail.takes, hnext])
  rwa [List.dropLast_concat] at hmem

theorem ending_of_ending_split (h : e.CFamily) {start : List Char} {lasts : List (List Char)}
    (hstart : 'Z' ∉ start ∧ '_' ∉ start) (hlasts : ∀ last ∈ lasts, last ≠ [] ∧ 'Z' ∉ last)
    (hplain : ∀ c ∈ text, isPlain c = true) {rest : List Char}
    (hsplit : e.splitUnderscores text = start ++ rest) (htail : (Tail.ending lasts).Meets rest) :
    ∃ rest', text = start ++ rest' ∧ (Tail.ending lasts).Meets rest' := by
  -- The underscore before the ending is followed by a letter other than the mark's and so is an
  -- old one, and neither the start before it nor the ending after it has been changed.
  obtain ⟨mid, last, hlast, rest, rfl, -⟩ := htail
  obtain ⟨hnonempty, hlastMark⟩ := hlasts last hlast
  obtain ⟨c, last', rfl⟩ := List.exists_cons_of_ne_nil hnonempty
  rw [List.mem_cons, not_or] at hlastMark
  obtain ⟨front, after, htext, hafter⟩ :=
    h.exists_of_split_eq (Ne.symm hlastMark.1) (hsplit.trans (List.append_assoc _ _ _).symm)
  obtain ⟨rest', rfl⟩ := h.prefix_of_split_of_notMem hstart.1 ⟨_, hsplit.symm⟩
  obtain ⟨more, rfl⟩ := exists_of_append_eq hstart.2 htext
  obtain ⟨after', rfl⟩ := h.prefix_of_split_of_notMem hlastMark.2 ⟨_, hafter.symm⟩
  refine ⟨_, rfl, more, c :: last', hlast, after', rfl, fun d hd => ?_⟩
  exact contains_nameChars.mpr (hplain d (by simp [hd]))

/-- A name that meets a shape once its underscores are split met it before, or has two underscores
after an open stem. -/
theorem meets_of_meets_split (h : e.CFamily) {shape : Shape} (hshape : shape ∈ cShapes)
    (hplain : ∀ c ∈ text, isPlain c = true) (hmeets : shape.Meets (e.splitUnderscores text)) :
    shape.Meets text ∨ ∃ stem ∈ openStems, (stem ++ "__").toList <+: text := by
  have hstarts : ∀ shape ∈ cShapes, ∀ start ∈ shape.starts, 'Z' ∉ start := by decide
  obtain ⟨start, hstart, rest, hsplit, htail⟩ := hmeets
  cases hkind : shape.tail with
  | next next =>
    rw [hkind] at htail
    obtain ⟨c, rest, rfl, hc⟩ := htail
    have hbegins : start ++ [c] <+: e.splitUnderscores text := ⟨rest, by simp [hsplit]⟩
    rcases h.prefix_of_split (hstarts shape hshape start hstart) hbegins with
      ⟨more, rfl⟩ | ⟨rfl, stem, rfl, hstem⟩
    · exact Or.inl ⟨start, hstart, c :: more, by simp, hkind ▸ ⟨c, more, rfl, hc⟩⟩
    · refine Or.inr ⟨_, mem_openStems hshape hkind hc hstart, ?_⟩
      simpa using hstem
  | ending lasts =>
    have hlasts : ∀ shape ∈ cShapes, ∀ last ∈ shape.tail.lasts,
        (last ≠ [] ∧ 'Z' ∉ last) ∧ ∀ start ∈ shape.starts, '_' ∉ start := by decide
    have hsteady := hlasts shape hshape
    rw [hkind] at htail hsteady
    have hfree : '_' ∉ start := by
      obtain ⟨-, last, hlast, -⟩ := htail
      exact (hsteady last hlast).2 start hstart
    obtain ⟨rest', htext, htail'⟩ := h.ending_of_ending_split
      ⟨hstarts shape hshape start hstart, hfree⟩ (fun last hlast => (hsteady last hlast).1) hplain
      hsplit htail
    exact Or.inl ⟨start, hstart, rest', htext, hkind ▸ htail'⟩

section OpenStems

variable {stem : String}

theorem openStem_starts (hstem : stem ∈ openStems) :
    '_' ∉ stem.toList ∧ ∃ c rest, stem.toList = c :: rest ∧ c.isUpper = true ∧ c ≠ 'Z' := by
  have hstems : ∀ stem ∈ openStems, '_' ∉ stem.toList ∧
      (stem.toList.head?.any fun c => c.isUpper && c != 'Z') = true := by decide
  obtain ⟨hfree, hhead⟩ := hstems stem hstem
  refine ⟨hfree, ?_⟩
  cases hlist : stem.toList with
  | nil => simp [hlist] at hhead
  | cons c rest => exact ⟨c, rest, rfl, by simpa [hlist] using hhead⟩

theorem not_meets_openStem {shape : Shape} (hshape : shape ∈ cShapes) (hstem : stem ∈ openStems)
    (hbegins : (stem ++ "__").toList <+: text) : ¬ shape.Meets text := by
  have hclash : ∀ stem ∈ openStems, ∀ shape ∈ cShapes, ∀ start ∈ shape.starts,
      ¬ (stem ++ "__").toList <+: start ∧ (start <+: (stem ++ "__").toList →
        shape.tail.lasts = [] ∧
          (((stem ++ "__").toList.drop start.length).head?.any (shape.tail.takes ·)) = false) := by
    decide
  rintro ⟨start, hstart, rest, rfl, htail⟩
  obtain ⟨hlong, hshort⟩ := hclash stem hstem shape hshape start hstart
  -- A start as long as the stem and its underscores would have a doubled underscore; after a
  -- shorter one comes a character of the stem or an underscore.
  rcases List.prefix_or_prefix_of_prefix hbegins (List.prefix_append start rest) with
    hbelow | habove
  · exact hlong hbelow
  · obtain ⟨hlasts, htakes⟩ := hshort habove
    obtain ⟨more, hmore⟩ := habove
    obtain ⟨c, more, rfl⟩ : ∃ c more', more = c :: more' := by
      apply List.exists_cons_of_ne_nil
      rintro rfl
      exact hlong ⟨[], by simpa using hmore.symm⟩
    rw [← hmore, List.drop_left] at htakes
    obtain ⟨after, hafter⟩ := hbegins
    rw [← hmore, List.append_assoc, List.append_cancel_left_eq] at hafter
    have hmeets : shape.tail.takes c = true := by
      rw [← hafter] at htail
      exact htail.takes hlasts
    simp [hmeets] at htakes

theorem isReserved_split_openStem (h : e.CFamily) (hstem : stem ∈ openStems) :
    e.isReserved (e.splitUnderscores ((stem ++ "__").toList ++ text)) = true := by
  have hshapes : ∀ stem ∈ openStems, ∃ shape ∈ cShapes,
      (stem ++ "_").toList ∈ shape.starts ∧ shape.tail.takes 'Z' = true := by decide
  obtain ⟨shape, hshape, hstart, htakes⟩ := hshapes stem hstem
  refine h.isReserved_iff.mpr (Or.inr ⟨shape, hshape, _, hstart, ?_⟩)
  refine ⟨e.encodeChar '_' ++ e.splitUnderscores text, ?_, ?_⟩
  · simp [splitUnderscores_append (openStem_starts hstem).1, splitUnderscores]
  · rw [h.encodeChar_underscore]
    exact Tail.meets_of_takes htakes

end OpenStems

/-- Correction and stropping leave an underscore or the mark in front of what they change. -/
theorem corrected_eq (h : e.CFamily) {c : Char} {rest : List Char} (hunderscore : c ≠ '_')
    (hmark : c ≠ 'Z') (hcorrected : e.correctStart (e.strop token) = c :: rest) :
    token = c :: rest := by
  rcases e.correctStart_cases (e.strop token) with ⟨-, hsame⟩ | ⟨rest', -, hresult⟩
  · rw [hsame] at hcorrected
    rcases e.strop_cases token with ⟨-, hstrop⟩ | ⟨-, hstrop⟩
    · rw [hstrop, h.stropBefore] at hcorrected
      cases hcorrected
      exact absurd rfl hunderscore
    · exact hstrop.symm.trans hcorrected
  · rw [hresult, h.encodeChar_underscore] at hcorrected
    split at hcorrected
    · cases hcorrected
      exact absurd rfl hmark
    · cases hcorrected
      exact absurd rfl hunderscore

theorem openStem_of_isReserved_split (h : e.CFamily) (hplain : ∀ c ∈ text, isPlain c = true)
    (hfree : e.isReserved text = false) (hreserved : e.isReserved (e.splitUnderscores text) = true) :
    ∃ stem ∈ openStems, (stem ++ "__").toList <+: text := by
  rw [Bool.eq_false_iff, Ne, h.isReserved_iff, not_or] at hfree
  rcases h.isReserved_iff.mp hreserved with hword | ⟨shape, hshape, hmeets⟩
  · rcases h.splitUnderscores_eq_or_mem text with hsame | hmark
    · exact absurd (hsame ▸ hword) hfree.1
    · have hfits := h.words _ hword
      simp [isCWord, hmark] at hfits
  · rcases h.meets_of_meets_split hshape hplain hmeets with hbefore | hopen
    · exact absurd ⟨shape, hshape, hbefore⟩ hfree.2
    · exact hopen

theorem isReserved_openStem (h : e.CFamily) {stem : String} (hstem : stem ∈ openStems)
    (hbegins : (stem ++ "__").toList <+: text) : e.isReserved text = false := by
  rw [Bool.eq_false_iff, Ne, h.isReserved_iff]
  rintro (hword | ⟨shape, hshape, hmeets⟩)
  · obtain ⟨-, c, rest, hlist, hupper, -⟩ := openStem_starts hstem
    obtain ⟨more, rfl⟩ := hbegins
    have hfits := h.words _ hword
    simp [isCWord, hlist, hupper] at hfits
  · exact not_meets_openStem hshape hstem hbegins hmeets

theorem corrected_openStem (h : e.CFamily) {stem : String} (hstem : stem ∈ openStems)
    (hbegins : (stem ++ "__").toList <+: text) : e.correctStart (e.strop text) = text := by
  rw [strop, h.isReserved_openStem hstem hbegins, if_neg Bool.false_ne_true]
  obtain ⟨-, c, more, hlist, hupper, -⟩ := openStem_starts hstem
  obtain ⟨rest, rfl⟩ := hbegins
  rw [String.toList_append, hlist]
  apply correctStart_of_ne
  rintro rfl
  cases hupper

theorem isReserved_encodeChars_iff (h : e.CFamily) (hsplit : e.splitDouble = true)
    (haffixes : e.PlainAffixes) (token : List Char) : e.isReserved (e.encodeChars token) = true ↔
      ∃ stem ∈ openStems, (stem ++ "__").toList <+: e.replaceIllegal token := by
  have hplain : ∀ c ∈ e.correctStart (e.strop (e.replaceIllegal token)), isPlain c = true :=
    haffixes.correctStart (haffixes.strop haffixes.replaceIllegal)
  rw [h.encodeChars_eq, hsplit, if_pos rfl]
  constructor
  · intro hreserved
    obtain ⟨stem, hstem, rest, hbegins⟩ := h.openStem_of_isReserved_split hplain
      h.isReserved_corrected hreserved
    obtain ⟨-, c, more, hlist, hupper, hmark⟩ := openStem_starts hstem
    refine ⟨stem, hstem, rest, ?_⟩
    rw [String.toList_append, hlist] at hbegins ⊢
    refine (h.corrected_eq ?_ hmark hbegins.symm).symm
    rintro rfl
    cases hupper
  · rintro ⟨stem, hstem, rest, hbegins⟩
    rw [h.corrected_openStem hstem ⟨rest, hbegins⟩, ← hbegins]
    exact h.isReserved_split_openStem hstem

end CFamily

/-- In C++ an encoded token is not reserved unless two underscores come after an open stem, and
then it is. -/
theorem isReserved_encode_cpp (token : String) : ∃ e : Encoder, e.IsFor Target.cpp ∧
    (e.isReserved (e.encode token).toList = false ↔
      ∀ stem ∈ ["FE", "LC", "SIG", "TIME", "ATOMIC"],
        ¬ (stem ++ "__").toList <+: e.replaceIllegal token.toList) := by
  obtain ⟨e, he, hfamily, hsplit⟩ := exists_cFamily_cpp
  refine ⟨e, he, ?_⟩
  obtain ⟨rules, hload, he⟩ := he
  rw [encode, String.toList_ofList, Bool.eq_false_iff, Ne,
    hfamily.isReserved_encodeChars_iff hsplit (plainAffixes_of_load hload he)]
  simp only [not_exists, not_and, CFamily.openStems]

theorem isReserved_encode_fe : ∃ e : Encoder, e.IsFor Target.cpp ∧
    e.encode "FE__x" = "FE_ZX005Fx" ∧ e.isReserved (e.encode "FE__x").toList = true := by
  obtain ⟨e, he, hfamily, hsplit⟩ := exists_cFamily_cpp
  have hstem : "FE" ∈ CFamily.openStems := by decide
  have hplain : e.replaceIllegal "FE__x".toList = ("FE" ++ "__").toList ++ ['x'] := rfl
  have hencode : e.encodeChars "FE__x".toList =
      e.splitUnderscores (("FE" ++ "__").toList ++ ['x']) := by
    rw [hfamily.encodeChars_eq, hsplit, if_pos rfl, hplain,
      hfamily.corrected_openStem hstem (List.prefix_append _ _)]
  refine ⟨e, he, ?_, ?_⟩
  · have hdoubled : e.splitUnderscores (("FE" ++ "__").toList ++ ['x']) =
        'F' :: 'E' :: '_' :: (e.encodeChar '_' ++ ['x']) := rfl
    rw [encode, hencode, hdoubled, hfamily.encodeChar_underscore]
    decide
  · rw [encode, String.toList_ofList, hencode]
    exact hfamily.isReserved_split_openStem hstem

end SchemaForge.Encoder
