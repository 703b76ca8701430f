import Mathlib.Tactic.Common
import SchemaForge.Pattern.Basic

/-! What patterns match. A pattern leads from one place of a text to a later one, and the meaning of
each kind of pattern is said by the places it leads to. The matcher, which keeps what may be left to
match, agrees with that meaning. -/

namespace SchemaForge.Pattern

/-- A place in a text: the character before it and all that follows. -/
structure Place where
  before : Option Char
  ahead : List Char

namespace Place

variable {i j k : Place}

def AtOrAfter (i j : Place) : Prop :=
  j = i ∨ j.ahead.length < i.ahead.length

theorem AtOrAfter.refl (i : Place) : AtOrAfter i i :=
  Or.inl rfl

theorem AtOrAfter.trans (hij : AtOrAfter i j) (hjk : AtOrAfter j k) : AtOrAfter i k := by
  rcases hij with rfl | hij
  · exact hjk
  · rcases hjk with rfl | hjk
    · exact Or.inr hij
    · exact Or.inr (Nat.lt_trans hjk hij)

theorem AtOrAfter.antisymm (hij : AtOrAfter i j) (hji : AtOrAfter j i) : j = i := by
  rcases hij with rfl | hij
  · rfl
  · rcases hji with rfl | hji
    · rfl
    · exact absurd hij (Nat.lt_asymm hji)

end Place

def Times (leads : Place → Place → Prop) : Nat → Place → Place → Prop
  | 0, i, j => j = i
  | n + 1, i, j => ∃ k, leads i k ∧ Times leads n k j

def Leads : Pattern → Place → Place → Prop
  | never, _, _ => False
  | empty, i, j => j = i
  | one cls, i, j => ∃ c, i.ahead = c :: j.ahead ∧ j.before = some c ∧ cls.contains c = true
  | look what letters, i, j => j = i ∧ what.holds letters.contains i.before i.ahead.head? = true
  | seq a b, i, j => ∃ k, Leads a i k ∧ Leads b k j
  | alt a b, i, j => Leads a i j ∨ Leads b i j
  | repeated a least most, i, j =>
    ∃ n, least ≤ n ∧ (∀ m, most = some m → n ≤ m) ∧ Times (Leads a) n i j

def WellFormed : Pattern → Prop
  | seq a b => WellFormed a ∧ WellFormed b
  | alt a b => WellFormed a ∧ WellFormed b
  | repeated a least most => WellFormed a ∧ ∀ m, most = some m → least ≤ m
  | _ => True

variable {p q : Pattern} {i j k : Place} {before : Option Char} {c : Char} {rest : List Char}

section Times

variable {leads : Place → Place → Prop} {n m : Nat}

theorem Times.atOrAfter (hleads : ∀ i j, leads i j → i.AtOrAfter j) (h : Times leads n i j) :
    i.AtOrAfter j := by
  induction n generalizing i with
  | zero => exact Or.inl h
  | succ n ih =>
    obtain ⟨k, hik, hkj⟩ := h
    exact (hleads i k hik).trans (ih hkj)

theorem Times.stay (h : leads i i) (htimes : Times leads n i j) : Times leads (n + m) i j := by
  induction m with
  | zero => exact htimes
  | succ m ih => exact ⟨i, h, ih⟩

theorem Times.exists_first (h : Times leads n i j) (hne : j ≠ i) :
    ∃ m k, leads i k ∧ k ≠ i ∧ Times leads m k j ∧ m < n ∧ (m + 1 = n ∨ leads i i) := by
  induction n with
  | zero => exact absurd h hne
  | succ n ih =>
    obtain ⟨k, hik, hkj⟩ := h
    by_cases hk : k = i
    · subst hk
      obtain ⟨m, l, hl, hlne, htimes, hm, -⟩ := ih hkj
      exact ⟨m, l, hl, hlne, htimes, Nat.lt_succ_of_lt hm, Or.inr hik⟩
    · exact ⟨n, k, hik, hk, hkj, Nat.lt_succ_self n, Or.inl rfl⟩

end Times

theorem Leads.atOrAfter (h : Leads p i j) : i.AtOrAfter j := by
  induction p generalizing i j with
  | never => exact h.elim
  | empty => exact Or.inl h
  | one cls =>
    obtain ⟨c, hahead, -⟩ := h
    right
    simp [hahead]
  | look what letters => exact Or.inl h.1
  | seq a b iha ihb =>
    obtain ⟨k, hik, hkj⟩ := h
    exact (iha hik).trans (ihb hkj)
  | alt a b iha ihb => exact h.elim iha ihb
  | repeated a least most ih =>
    obtain ⟨n, -, -, htimes⟩ := h
    exact htimes.atOrAfter fun _ _ => ih

/-- A pattern may match nothing exactly if it leads from the place to itself. -/
theorem nullable_iff (hp : p.WellFormed) :
    nullable i.before i.ahead.head? p = true ↔ Leads p i i := by
  induction p with
  | never => simp [nullable, Leads]
  | empty => simp [nullable, Leads]
  | one cls => simp [nullable, Leads]
  | look what letters => simp [nullable, Leads]
  | seq a b iha ihb =>
    rw [nullable, Bool.and_eq_true, iha hp.1, ihb hp.2]
    constructor
    · rintro ⟨ha, hb⟩
      exact ⟨i, ha, hb⟩
    · rintro ⟨k, ha, hb⟩
      obtain rfl := ha.atOrAfter.antisymm hb.atOrAfter
      exact ⟨ha, hb⟩
  | alt a b iha ihb =>
    rw [nullable, Bool.or_eq_true, iha hp.1, ihb hp.2]
    rfl
  | repeated a least most ih =>
    rw [nullable, Bool.or_eq_true, beq_iff_eq, ih hp.1]
    constructor
    · rintro (rfl | ha)
      · exact ⟨0, Nat.le_refl 0, fun _ _ => Nat.zero_le _, rfl⟩
      · refine ⟨least, Nat.le_refl least, hp.2, ?_⟩
        rw [← Nat.zero_add least]
        exact Times.stay ha rfl
    · rintro ⟨n, hleast, -, htimes⟩
      cases n with
      | zero => exact Or.inl (Nat.le_zero.mp hleast)
      | succ n =>
        obtain ⟨k, hik, hki⟩ := htimes
        obtain rfl := hik.atOrAfter.antisymm (hki.atOrAfter fun _ _ => Leads.atOrAfter)
        exact Or.inr hik

theorem leads_mkSeq : Leads (mkSeq p q) i j ↔ ∃ k, Leads p i k ∧ Leads q k j := by
  unfold mkSeq
  split
  · simp [Leads]
  · rfl

theorem wellFormed_mkSeq (hp : p.WellFormed) (hq : q.WellFormed) : (mkSeq p q).WellFormed := by
  unfold mkSeq
  split
  · exact hq
  · exact ⟨hp, hq⟩

theorem leads_mkRepeated {least : Nat} {most : Option Nat}
    (hleast : ∀ m, most = some m → least ≤ m) :
    Leads (mkRepeated p least most) i j ↔ Leads (repeated p least most) i j := by
  unfold mkRepeated
  split
  · constructor
    · intro h
      exact ⟨0, hleast 0 rfl, fun _ _ => Nat.zero_le _, h⟩
    · rintro ⟨n, -, hmost, htimes⟩
      obtain rfl := Nat.le_zero.mp (hmost 0 rfl)
      exact htimes
  · rfl

theorem wellFormed_mkRepeated {least : Nat} {most : Option Nat} (hp : p.WellFormed)
    (hleast : ∀ m, most = some m → least ≤ m) : (mkRepeated p least most).WellFormed := by
  unfold mkRepeated
  split
  · trivial
  · exact ⟨hp, hleast⟩

theorem least_le_pred {least : Nat} {most : Option Nat} (h : ∀ m, most = some m → least ≤ m)
    (skips : Bool) :
    ∀ m, most.map (· - 1) = some m → (if skips then 0 else least - 1) ≤ m := by
  intro m hm
  obtain ⟨bound, hbound, rfl⟩ := Option.map_eq_some_iff.mp hm
  have hle := h bound hbound
  split <;> omega

theorem derivs_repeated {least : Nat} {most : Option Nat} (h : most ≠ some 0) :
    derivs before c (repeated p least most) =
      (derivs before c p).map (mkSeq · (mkRepeated p
        (if nullable before (some c) p then 0 else least - 1) (most.map (· - 1)))) := by
  rw [derivs]
  exact h

theorem wellFormed_of_mem_derivs (hp : p.WellFormed) (hq : q ∈ derivs before c p) :
    q.WellFormed := by
  induction p generalizing q with
  | never => cases hq
  | empty => cases hq
  | one cls =>
    rw [derivs, List.mem_ite_nil_right] at hq
    rw [List.mem_singleton.mp hq.2]
    trivial
  | look what letters => cases hq
  | seq a b iha ihb =>
    rw [derivs, List.mem_append, List.mem_ite_nil_right] at hq
    rcases hq with hq | ⟨-, hq⟩
    · obtain ⟨d, hd, rfl⟩ := List.mem_map.mp hq
      exact wellFormed_mkSeq (iha hp.1 hd) hp.2
    · exact ihb hp.2 hq
  | alt a b iha ihb => exact (List.mem_append.mp hq).elim (iha hp.1) (ihb hp.2)
  | repeated a least most ih =>
    by_cases hmost : most = some 0
    · subst hmost
      cases hq
    · rw [derivs_repeated hmost] at hq
      obtain ⟨d, hd, rfl⟩ := List.mem_map.mp hq
      exact wellFormed_mkSeq (ih hp.1 hd) (wellFormed_mkRepeated hp.1 (least_le_pred hp.2 _))

/-- One repetition begun and the rest of them lead on like all of them. -/
theorem leads_repeated_iff {least : Nat} {most : Option Nat}
    (hp : (repeated p least most).WellFormed) (hmost : most ≠ some 0) (hj : j ≠ i) :
    Leads (repeated p least most) i j ↔ ∃ k, (Leads p i k ∧ k ≠ i) ∧
      Leads (repeated p (if nullable i.before i.ahead.head? p then 0 else least - 1)
        (most.map (· - 1))) k j := by
  constructor
  · rintro ⟨n, hleast, hbound, htimes⟩
    obtain ⟨m, k, hik, hk, htimes, hm, hfirst⟩ := htimes.exists_first hj
    refine ⟨k, ⟨hik, hk⟩, m, ?_, ?_, htimes⟩
    · split
      · exact Nat.zero_le m
      · rename_i hnull
        have hstay := mt (nullable_iff hp.1).mpr hnull
        have hlast := hfirst.resolve_right hstay
        omega
    · intro bound hmap
      obtain ⟨above, habove, rfl⟩ := Option.map_eq_some_iff.mp hmap
      have := hbound above habove
      omega
  · rintro ⟨k, ⟨hik, hk⟩, m, hleast, hbound, htimes⟩
    have hmore : Times (Leads p) (m + 1) i j := ⟨k, hik, htimes⟩
    have hpred : ∀ bound, most = some bound → m + 1 ≤ bound := by
      intro bound hsome
      have hpos : bound ≠ 0 := fun hzero => hmost (hzero ▸ hsome)
      have := hbound (bound - 1) (by simp [hsome])
      omega
    by_cases hnull : nullable i.before i.ahead.head? p = true
    · -- Repetitions that match nothing make up for those that are missing.
      refine ⟨m + 1 + (least - (m + 1)), by omega, ?_, ?_⟩
      · intro bound hsome
        have := hpred bound hsome
        have := hp.2 bound hsome
        omega
      · exact Times.stay ((nullable_iff hp.1).mp hnull) hmore
    · rw [if_neg hnull] at hleast
      exact ⟨m + 1, by omega, hpred, hmore⟩

/-- Once a character has been read, what is left leads to the places that the pattern leads to past
that character. -/
theorem exists_mem_derivs_iff (hp : p.WellFormed) :
    (∃ q ∈ derivs before c p, Leads q ⟨some c, rest⟩ j) ↔
      Leads p ⟨before, c :: rest⟩ j ∧ j ≠ ⟨before, c :: rest⟩ := by
  induction p generalizing j with
  | never => simp [derivs, Leads]
  | empty => simp [derivs, Leads]
  | one cls =>
    obtain ⟨jbefore, jahead⟩ := j
    simp only [derivs, List.mem_ite_nil_right, List.mem_singleton]
    constructor
    · rintro ⟨q, ⟨hc, rfl⟩, hj⟩
      cases hj
      exact ⟨⟨c, rfl, rfl, hc⟩, by simp⟩
    · rintro ⟨⟨d, hahead, hbefore, hd⟩, -⟩
      cases hahead
      cases hbefore
      exact ⟨empty, ⟨hd, rfl⟩, rfl⟩
  | look what letters => simp +contextual [derivs, Leads]
  | seq a b iha ihb =>
    have hstay := nullable_iff (i := ⟨before, c :: rest⟩) hp.1
    simp only [List.head?_cons] at hstay
    simp only [derivs, List.mem_append, List.mem_map, List.mem_ite_nil_right, hstay, or_and_right,
      exists_or, Leads]
    constructor
    · rintro (⟨_, ⟨d, hd, rfl⟩, hleads⟩ | ⟨q, ⟨ha, hq⟩, hleads⟩)
      · obtain ⟨k, hdk, hkj⟩ := leads_mkSeq.mp hleads
        obtain ⟨hak, hk⟩ := (iha hp.1).mp ⟨d, hd, hdk⟩
        refine ⟨⟨k, hak, hkj⟩, ?_⟩
        rintro rfl
        exact hk (hak.atOrAfter.antisymm hkj.atOrAfter)
      · obtain ⟨hb, hj⟩ := (ihb hp.2).mp ⟨q, hq, hleads⟩
        exact ⟨⟨_, ha, hb⟩, hj⟩
    · rintro ⟨⟨k, hak, hkj⟩, hj⟩
      -- The character is read by the second part if the first one matches nothing.
      by_cases hk : k = ⟨before, c :: rest⟩
      · subst hk
        obtain ⟨q, hq, hleads⟩ := (ihb hp.2).mpr ⟨hkj, hj⟩
        exact Or.inr ⟨q, ⟨hak, hq⟩, hleads⟩
      · obtain ⟨d, hd, hdk⟩ := (iha hp.1).mpr ⟨hak, hk⟩
        exact Or.inl ⟨_, ⟨d, hd, rfl⟩, leads_mkSeq.mpr ⟨k, hdk, hkj⟩⟩
  | alt a b iha ihb =>
    simp only [derivs, List.mem_append, or_and_right, exists_or, iha hp.1, ihb hp.2, Leads]
  | repeated a least most ih =>
    by_cases hmost : most = some 0
    · subst hmost
      simp only [derivs, List.not_mem_nil, false_and, exists_false, false_iff, not_and, not_not]
      rintro ⟨n, -, hbound, htimes⟩
      obtain rfl := Nat.le_zero.mp (hbound 0 rfl)
      exact htimes
    · have hleast := least_le_pred hp.2 (nullable before (some c) a)
      simp only [derivs_repeated hmost, List.mem_map]
      constructor
      · rintro ⟨_, ⟨d, hd, rfl⟩, hleads⟩
        obtain ⟨k, hdk, hkj⟩ := leads_mkSeq.mp hleads
        obtain ⟨hak, hk⟩ := (ih hp.1).mp ⟨d, hd, hdk⟩
        have hj : j ≠ ⟨before, c :: rest⟩ := by
          rintro rfl
          exact hk (hak.atOrAfter.antisymm hkj.atOrAfter)
        exact ⟨(leads_repeated_iff hp hmost hj).mpr ⟨k, ⟨hak, hk⟩, (leads_mkRepeated hleast).mp hkj⟩, hj⟩
      · rintro ⟨hleads, hj⟩
        obtain ⟨k, hak, hkj⟩ := (leads_repeated_iff hp hmost hj).mp hleads
        obtain ⟨d, hd, hdk⟩ := (ih hp.1).mpr hak
        exact ⟨_, ⟨d, hd, rfl⟩, leads_mkSeq.mpr ⟨k, hdk, (leads_mkRepeated hleast).mpr hkj⟩⟩

section Search

variable {text : List Char} {left : List Pattern}

def MatchesAt (p : Pattern) (i : Place) : Prop :=
  ∃ j, Leads p i j

theorem matchesAt_nil (hp : p.WellFormed) :
    MatchesAt p ⟨before, []⟩ ↔ nullable before none p = true := by
  have hstay := nullable_iff (i := ⟨before, []⟩) hp
  refine Iff.trans ?_ hstay.symm
  constructor
  · rintro ⟨j, hj⟩
    rcases hj.atOrAfter with rfl | hless
    · exact hj
    · exact absurd hless (Nat.not_lt_zero _)
  · exact fun h => ⟨_, h⟩

theorem matchesAt_cons (hp : p.WellFormed) :
    MatchesAt p ⟨before, c :: rest⟩ ↔
      nullable before (some c) p = true ∨ ∃ q ∈ derivs before c p, MatchesAt q ⟨some c, rest⟩ := by
  have hstay := nullable_iff (i := ⟨before, c :: rest⟩) hp
  rw [List.head?_cons] at hstay
  rw [hstay]
  constructor
  · rintro ⟨j, hj⟩
    by_cases hsame : j = ⟨before, c :: rest⟩
    · exact Or.inl (hsame ▸ hj)
    · obtain ⟨q, hq, hleads⟩ := (exists_mem_derivs_iff hp).mpr ⟨hj, hsame⟩
      exact Or.inr ⟨q, hq, j, hleads⟩
  · rintro (h | ⟨q, hq, j, hleads⟩)
    · exact ⟨_, h⟩
    · exact ⟨j, ((exists_mem_derivs_iff hp).mp ⟨q, hq, hleads⟩).1⟩

/-- The search finds what is left to match here, and the whole pattern past one character or
more. -/
theorem search_iff (hp : p.WellFormed) (hleft : ∀ q ∈ left, q.WellFormed) :
    search p before left text = true ↔ (∃ q ∈ left, MatchesAt q ⟨before, text⟩) ∨
      ∃ c pre suf, text = c :: pre ++ suf ∧ MatchesAt p ⟨(c :: pre).getLast?, suf⟩ := by
  induction text generalizing before left with
  | nil =>
    simp only [search, List.any_eq_true, List.cons_append, List.nil_eq, reduceCtorEq, false_and,
      exists_false, or_false]
    exact exists_congr fun q => and_congr_right fun hq => (matchesAt_nil (hleft q hq)).symm
  | cons c rest ih =>
    have hnext : ∀ q ∈ (p :: left.flatMap (derivs before c)).eraseDups, q.WellFormed := by
      intro q hq
      rw [List.mem_eraseDups, List.mem_cons, List.mem_flatMap] at hq
      rcases hq with rfl | ⟨d, hd, hq⟩
      · exact hp
      · exact wellFormed_of_mem_derivs (hleft d hd) hq
    rw [search, Bool.or_eq_true, List.any_eq_true, ih hnext]
    simp only [List.mem_eraseDups, List.mem_cons, List.mem_flatMap]
    constructor
    · rintro (⟨q, hq, hnull⟩ | ⟨q, rfl | ⟨d, hd, hq⟩, hmatch⟩ | ⟨d, pre, suf, rfl, hmatch⟩)
      · exact Or.inl ⟨q, hq, (matchesAt_cons (hleft q hq)).mpr (Or.inl hnull)⟩
      · exact Or.inr ⟨c, [], rest, rfl, hmatch⟩
      · exact Or.inl ⟨d, hd, (matchesAt_cons (hleft d hd)).mpr (Or.inr ⟨q, hq, hmatch⟩)⟩
      · exact Or.inr ⟨c, d :: pre, suf, rfl, by rwa [List.getLast?_cons_cons]⟩
    · rintro (⟨q, hq, hmatch⟩ | ⟨d, pre, suf, htext, hmatch⟩)
      · rcases (matchesAt_cons (hleft q hq)).mp hmatch with hnull | ⟨d, hd, hmatch⟩
        · exact Or.inl ⟨q, hq, hnull⟩
        · exact Or.inr (Or.inl ⟨d, Or.inr ⟨q, hq, hd⟩, hmatch⟩)
      · cases htext
        cases pre with
        | nil => exact Or.inr (Or.inl ⟨p, Or.inl rfl, hmatch⟩)
        | cons d pre =>
          rw [List.getLast?_cons_cons] at hmatch
          exact Or.inr (Or.inr ⟨d, pre, suf, rfl, hmatch⟩)

/-- The matcher says yes exactly if the pattern matches at some place of the text. -/
theorem isMatch_iff (hp : p.WellFormed) : p.isMatch text = true ↔
    ∃ pre suf, text = pre ++ suf ∧ MatchesAt p ⟨pre.getLast?, suf⟩ := by
  rw [isMatch, search_iff hp (by simpa using hp)]
  constructor
  · rintro (⟨q, hq, hmatch⟩ | ⟨c, pre, suf, htext, hmatch⟩)
    · obtain rfl := List.mem_singleton.mp hq
      exact ⟨[], text, rfl, hmatch⟩
    · exact ⟨c :: pre, suf, htext, hmatch⟩
  · rintro ⟨pre, suf, rfl, hmatch⟩
    cases pre with
    | nil => exact Or.inl ⟨p, List.mem_singleton_self p, hmatch⟩
    | cons c pre => exact Or.inr ⟨c, pre, suf, rfl, hmatch⟩

end Search

end SchemaForge.Pattern
