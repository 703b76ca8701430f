import Mathlib.Data.List.Chain
import SchemaForge.Proofs.Naming.Identifiers

/-! Splitting doubled underscores. One pass from left to right leaves no two underscores side by
side, however many there were: the code that it puts between two of them keeps them apart. Texts
without such pairs stay as they are, and all others get longer. -/

namespace SchemaForge.Encoder

variable {e : Encoder} {text : List Char}

section Spaced

def Spaced (text : List Char) : Prop :=
  text.IsChain fun c d => ¬ (c = '_' ∧ d = '_')

theorem spaced_iff : Spaced text ↔ ¬ ['_', '_'] <:+: text := by
  rw [Spaced, List.isChain_iff_forall_rel_of_append_cons_cons]
  constructor
  · rintro h ⟨before, after, rfl⟩
    have hpair : before ++ ['_', '_'] ++ after = before ++ '_' :: '_' :: after := by simp
    exact h hpair ⟨rfl, rfl⟩
  · rintro h c d before after rfl ⟨rfl, rfl⟩
    exact h ⟨before, after, by simp⟩

theorem spaced_cons {c : Char} :
    Spaced (c :: text) ↔ ¬ (c = '_' ∧ text.head? = some '_') ∧ Spaced text := by
  rw [Spaced, List.isChain_cons, ← Spaced]
  apply and_congr_left'
  constructor
  · rintro h ⟨rfl, hhead⟩
    exact h '_' hhead ⟨rfl, rfl⟩
  · rintro h d hhead ⟨rfl, rfl⟩
    exact h ⟨rfl, hhead⟩

theorem Spaced.append {before : List Char} (h : Spaced before) (htext : Spaced text)
    (hlast : before.getLast? ≠ some '_') : Spaced (before ++ text) := by
  refine List.IsChain.append h htext ?_
  rintro c hc - - ⟨rfl, -⟩
  exact hlast hc

end Spaced

section Code

theorem encodeChar_underscore_eq (e : Encoder) :
    e.encodeChar '_' = e.codeMark ++ ['0', '0', '5', 'F'] := by
  have hcode : hexCode '_'.toNat = ['0', '0', '5', 'F'] := by decide
  rw [encodeChar, hcode]

end Code

section Splitting

theorem not_pair_of_unsplit {c : Char} (h : ∀ rest, c = '_' → text = '_' :: rest → False) :
    ¬ (c = '_' ∧ text.head? = some '_') := by
  rintro ⟨rfl, hhead⟩
  obtain ⟨rest, rfl⟩ := List.head?_eq_some_iff.mp hhead
  exact h rest rfl rfl

theorem splitUnderscores_of_spaced (h : Spaced text) : e.splitUnderscores text = text := by
  fun_induction Encoder.splitUnderscores e text with
  | case1 rest _ => simp [spaced_cons] at h
  | case2 c rest _ ih => rw [ih (spaced_cons.mp h).2]
  | case3 => rfl

theorem length_le_splitUnderscores (e : Encoder) (text : List Char) :
    text.length ≤ (e.splitUnderscores text).length := by
  fun_induction Encoder.splitUnderscores e text with
  | case1 rest ih =>
    simp only [encodeChar_underscore_eq, List.length_cons, List.length_append]
    omega
  | case2 c rest _ ih => exact Nat.succ_le_succ ih
  | case3 => exact Nat.le_refl _

theorem length_lt_splitUnderscores (h : ¬ Spaced text) :
    text.length < (e.splitUnderscores text).length := by
  fun_induction Encoder.splitUnderscores e text with
  | case1 rest _ =>
    have hrest := e.length_le_splitUnderscores rest
    simp only [encodeChar_underscore_eq, List.length_cons, List.length_append]
    omega
  | case2 c rest hsingle ih =>
    have hspaced : ¬ Spaced rest := fun hspaced =>
      h (spaced_cons.mpr ⟨not_pair_of_unsplit hsingle, hspaced⟩)
    exact Nat.succ_lt_succ (ih hspaced)
  | case3 => exact absurd List.isChain_nil h

end Splitting

end SchemaForge.Encoder
