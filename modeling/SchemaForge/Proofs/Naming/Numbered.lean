import Mathlib.Data.List.Nodup
import SchemaForge.Naming.Unique
import SchemaForge.Proofs.Layout

/-! Names given out one after the other. The number in a name is how often its token was asked for
before, so names for one token differ. Names for two tokens are the same exactly where one token is
the other with digits behind it and the numbers make up for these digits. -/

namespace SchemaForge.UniqueNames

variable {domain affix : String}

section Counting

theorem lookup_bump_self (key : String × String) (counts : List ((String × String) × Nat)) :
    ((bump key counts).lookup key).getD 0 = (counts.lookup key).getD 0 + 1 := by
  induction counts with
  | nil => simp [bump]
  | cons entry rest ih =>
    obtain ⟨other, n⟩ := entry
    by_cases h : other = key
    · simp [bump, h]
    · have hother : (key == other) = false := beq_eq_false_iff_ne.mpr (Ne.symm h)
      simp only [bump, if_neg h, List.lookup_cons, hother]
      exact ih

theorem lookup_bump_of_ne {key other : String × String} (h : other ≠ key)
    (counts : List ((String × String) × Nat)) :
    (bump key counts).lookup other = counts.lookup other := by
  have hkey : (other == key) = false := beq_eq_false_iff_ne.mpr h
  induction counts with
  | nil => simp [bump, h]
  | cons entry rest ih =>
    obtain ⟨found, n⟩ := entry
    by_cases hfound : found = key
    · subst hfound
      simp only [bump, if_true, List.lookup_cons, hkey]
    · simp only [bump, if_neg hfound, List.lookup_cons]
      rw [ih]

theorem count_next (names : UniqueNames) (token other : String) :
    (names.next domain token affix).2.count domain other =
      names.count domain other + if adjust token = adjust other then 1 else 0 := by
  simp only [next, count]
  split
  · rename_i h
    rw [h, lookup_bump_self]
  · rename_i h
    rw [lookup_bump_of_ne, Nat.add_zero]
    intro heq
    exact h (Prod.mk.inj heq).2.symm

end Counting

section Sequences

variable {names : UniqueNames} {tokens : List String} {i j : Nat} {a b : String}

def nextAll (names : UniqueNames) (domain affix : String) : List String → List String
  | [] => []
  | token :: rest =>
    (names.next domain token affix).1 :: (names.next domain token affix).2.nextAll domain affix rest

def numberAt (names : UniqueNames) (domain : String) (tokens : List String) (i : Nat)
    (token : String) : Nat :=
  names.count domain token + (tokens.take i).countP fun before => adjust before = adjust token

/-- A name is its token with the number of times the token was asked for before. -/
theorem getElem?_nextAll (names : UniqueNames) (tokens : List String) (i : Nat) :
    (names.nextAll domain affix tokens)[i]? = tokens[i]?.map fun token =>
      affix ++ adjust token ++ toString (names.numberAt domain tokens i token) ++ affix := by
  induction tokens generalizing names i with
  | nil => rfl
  | cons first rest ih =>
    cases i with
    | zero => simp [nextAll, next, numberAt]
    | succ i =>
      rw [nextAll, List.getElem?_cons_succ, List.getElem?_cons_succ, ih]
      congr 1
      funext token
      have hnumber : (names.next domain first affix).2.numberAt domain rest i token =
          names.numberAt domain (first :: rest) (i + 1) token := by
        simp only [numberAt, count_next, List.take_succ_cons, List.countP_cons, decide_eq_true_eq]
        omega
      rw [hnumber]

theorem length_nextAll (names : UniqueNames) (tokens : List String) :
    (names.nextAll domain affix tokens).length = tokens.length := by
  induction tokens generalizing names with
  | nil => rfl
  | cons first rest ih => rw [nextAll, List.length_cons, ih, List.length_cons]

theorem numberAt_congr (h : adjust a = adjust b) :
    names.numberAt domain tokens i a = names.numberAt domain tokens i b := by
  simp only [numberAt, count, h]

theorem numberAt_lt (h : i < j) (hi : tokens[i]? = some a) (hab : adjust a = adjust b) :
    names.numberAt domain tokens i a < names.numberAt domain tokens j b := by
  have hbefore : (tokens.take (i + 1)).countP (fun before => adjust before = adjust b) =
      (tokens.take i).countP (fun before => adjust before = adjust b) + 1 := by
    rw [List.take_add_one, hi, Option.toList_some, List.countP_append]
    simp [hab]
  have hlater : (tokens.take (i + 1)).countP (fun before => adjust before = adjust b) ≤
      (tokens.take j).countP (fun before => adjust before = adjust b) :=
    (List.take_prefix_take_left (by omega)).sublist.countP_le
  rw [numberAt_congr hab, numberAt, numberAt]
  omega

theorem numberAt_inj (hi : tokens[i]? = some a) (hj : tokens[j]? = some b)
    (hab : adjust a = adjust b) :
    names.numberAt domain tokens i a = names.numberAt domain tokens j b ↔ i = j := by
  constructor
  · intro h
    rcases Nat.lt_trichotomy i j with hlt | heq | hgt
    · exact absurd h (numberAt_lt hlt hi hab).ne
    · exact heq
    · exact absurd h (numberAt_lt hgt hj hab.symm).ne'
  · rintro rfl
    exact numberAt_congr hab

/-- A token with its number reads like a longer token with another number: what the longer token
has more are the first digits of the number. -/
def Clash (names : UniqueNames) (domain : String) (tokens : List String) (i j : Nat) : Prop :=
  ∃ a b digits, tokens[i]? = some a ∧ tokens[j]? = some b ∧ digits ≠ "" ∧
    adjust b = adjust a ++ digits ∧
    toString (names.numberAt domain tokens i a) =
      digits ++ toString (names.numberAt domain tokens j b)

theorem append_eq_append_iff {s t u v : String} :
    s ++ t = u ++ v ↔
      (∃ w, u = s ++ w ∧ t = w ++ v) ∨ ∃ w, s = u ++ w ∧ v = w ++ t := by
  simp only [← String.toList_inj, String.toList_append, List.append_eq_append_iff]
  constructor
  · rintro (⟨w, hw⟩ | ⟨w, hw⟩)
    · exact Or.inl ⟨String.ofList w, by simpa using hw⟩
    · exact Or.inr ⟨String.ofList w, by simpa using hw⟩
  · rintro (⟨w, hw⟩ | ⟨w, hw⟩)
    · exact Or.inl ⟨w.toList, hw⟩
    · exact Or.inr ⟨w.toList, hw⟩

/-- Names at two different places are the same exactly where their tokens clash. -/
theorem nextAll_eq_iff (hne : i ≠ j) (hi : tokens[i]? = some a) (hj : tokens[j]? = some b) :
    (names.nextAll domain affix tokens)[i]? = (names.nextAll domain affix tokens)[j]? ↔
      names.Clash domain tokens i j ∨ names.Clash domain tokens j i := by
  rw [getElem?_nextAll, getElem?_nextAll, hi, hj, Option.map_some, Option.map_some,
    Option.some.injEq, String.append_left_inj, String.append_assoc, String.append_assoc,
    String.append_right_inj, append_eq_append_iff]
  -- Where neither token is longer the numbers would have to agree.
  have hsame (h : adjust a = adjust b) :
      toString (names.numberAt domain tokens i a) ≠ toString (names.numberAt domain tokens j b) := by
    rw [Ne, Layout.toString_inj, numberAt_inj hi hj h]
    exact hne
  constructor
  · rintro (⟨w, hw, hnumber⟩ | ⟨w, hw, hnumber⟩)
    · refine Or.inl ⟨a, b, w, hi, hj, ?_, hw, hnumber⟩
      rintro rfl
      exact hsame (by simpa using hw.symm) (by simpa using hnumber)
    · refine Or.inr ⟨b, a, w, hj, hi, ?_, hw, hnumber⟩
      rintro rfl
      exact hsame (by simpa using hw) (by simpa using hnumber.symm)
  · rintro (⟨a', b', w, hi', hj', -, hw, hnumber⟩ | ⟨b', a', w, hj', hi', -, hw, hnumber⟩)
    · obtain rfl := Option.some.inj (hi.symm.trans hi')
      obtain rfl := Option.some.inj (hj.symm.trans hj')
      exact Or.inl ⟨w, hw, hnumber⟩
    · obtain rfl := Option.some.inj (hi.symm.trans hi')
      obtain rfl := Option.some.inj (hj.symm.trans hj')
      exact Or.inr ⟨w, hw, hnumber⟩

theorem not_clash_self : ¬ names.Clash domain tokens i i := by
  rintro ⟨a, b, digits, ha, hb, hdigits, hlonger, -⟩
  obtain rfl := Option.some.inj (ha.symm.trans hb)
  apply hdigits
  rw [← String.append_right_inj (adjust a), ← hlonger, String.append_empty]

/-- Names that are given out in one domain with one affix are pairwise different exactly if no two
of their tokens clash. -/
theorem nodup_nextAll_iff (names : UniqueNames) (domain affix : String) (tokens : List String) :
    (names.nextAll domain affix tokens).Nodup ↔ ∀ i j, ¬ names.Clash domain tokens i j := by
  rw [List.nodup_iff_getElem?_ne_getElem?]
  constructor
  · intro hdistinct i j hclash
    obtain ⟨a, b, -, hi, hj, -⟩ := id hclash
    rcases Nat.lt_trichotomy i j with hlt | rfl | hgt
    · refine hdistinct i j hlt ?_ ((nextAll_eq_iff (by omega) hi hj).mpr (Or.inl hclash))
      rw [length_nextAll]
      exact (List.getElem?_eq_some_iff.mp hj).1
    · exact not_clash_self hclash
    · refine hdistinct j i hgt ?_ ((nextAll_eq_iff (by omega) hj hi).mpr (Or.inr hclash))
      rw [length_nextAll]
      exact (List.getElem?_eq_some_iff.mp hi).1
  · intro hclash i j hlt hj hsame
    rw [length_nextAll] at hj
    have hi : i < tokens.length := by omega
    rw [nextAll_eq_iff (by omega) (List.getElem?_eq_getElem hi) (List.getElem?_eq_getElem hj)]
      at hsame
    rcases hsame with h | h
    · exact hclash i j h
    · exact hclash j i h

/-- The eleventh name for `a` is the first name for `a1`. -/
theorem nextAll_repeats :
    ¬ (nextAll {} "c" "_" (List.replicate 11 "a" ++ ["a1"])).Nodup := by
  decide +kernel

end Sequences

end SchemaForge.UniqueNames
