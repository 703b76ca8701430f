import Mathlib.Tactic.Common
import SchemaForge.Text.Snake

/-! Snake case of ASCII text. Whatever its neighbours, a character is written as itself in
lowercase or, if it is a separator, as an underscore, and only underscores come in between: what is
left without underscores is the text in lowercase without separators. Text that has no capital and
no other separator than the underscore is left as it is, and snake case is of that form. -/

namespace SchemaForge.Text

/-- ASCII, no capital letter, and no separator but the underscore. -/
def Plain (c : Char) : Prop :=
  c.toNat < 128 ∧ c.isUpper = false ∧ c ≠ '-' ∧ c ≠ '.'

instance (c : Char) : Decidable (Plain c) :=
  inferInstanceAs (Decidable (_ ∧ _))

variable {c d : Char} {cs : List Char}

theorem plain_underscore : Plain '_' := by decide

theorem plain_toLower (hc : c.toNat < 128) (h : ¬ (c = '-' ∨ c = '.')) : Plain c.toLower := by
  have hall : ∀ n < 128, ¬ (Char.ofNat n = '-' ∨ Char.ofNat n = '.') →
      Plain (Char.ofNat n).toLower := by decide +kernel
  have hplain := hall c.toNat hc
  rw [Char.ofNat_toNat] at hplain
  exact hplain h

theorem Plain.toLower_eq (h : Plain c) : c.toLower = c := by
  have hupper := h.2.1
  unfold Char.isUpper at hupper
  unfold Char.toLower
  rw [dif_neg]
  simpa using hupper

theorem snakeLetter_of_separator (h : c = '-' ∨ c = '.') : snakeLetter c = ['_'] := by
  simp [snakeLetter, h]

theorem snakeLetter_of_ascii (hc : c.toNat < 128) (h : ¬ (c = '-' ∨ c = '.')) :
    snakeLetter c = [c.toLower] := by
  simp [snakeLetter, h, lower_of_ascii hc]

theorem plain_of_mem_snakeLetter (hc : c.toNat < 128) (hd : d ∈ snakeLetter c) : Plain d := by
  by_cases h : c = '-' ∨ c = '.'
  · rw [snakeLetter_of_separator h, List.mem_singleton] at hd
    exact hd ▸ plain_underscore
  · rw [snakeLetter_of_ascii hc h, List.mem_singleton] at hd
    exact hd ▸ plain_toLower hc h

theorem plain_of_mem_snakeFrom (h : ∀ c ∈ cs, c.toNat < 128) (before : Option Char)
    (hd : d ∈ snakeFrom before cs) : Plain d := by
  induction cs generalizing before with
  | nil => cases hd
  | cons c rest ih =>
    obtain ⟨hc, hrest⟩ := List.forall_mem_cons.mp h
    rw [snakeFrom, List.mem_append, List.mem_append] at hd
    rcases hd with (hd | hd) | hd
    · split at hd
      · exact List.mem_singleton.mp hd ▸ plain_underscore
      · cases hd
    · exact plain_of_mem_snakeLetter hc hd
    · exact ih hrest (some c) hd

/-- No capital means no new word, and then every character is its own snake letter. -/
theorem snakeFrom_of_plain (h : ∀ c ∈ cs, Plain c) (before : Option Char) :
    snakeFrom before cs = cs := by
  induction cs generalizing before with
  | nil => rfl
  | cons c rest ih =>
    obtain ⟨hc, hrest⟩ := List.forall_mem_cons.mp h
    have ⟨hascii, hupper, hseparator⟩ := hc
    have hopens : opensWord before c rest.head? = false := by
      simp [opensWord, isUppercase_of_ascii hascii, hupper]
    rw [snakeFrom, hopens, snakeLetter_of_ascii hascii (not_or.mpr hseparator), hc.toLower_eq,
      ih hrest]
    rfl

theorem filter_snakeLetter (hc : c.toNat < 128) :
    (snakeLetter c).filter (· ≠ '_') =
      [c.toLower].filter fun d => d ≠ '_' ∧ d ≠ '-' ∧ d ≠ '.' := by
  by_cases h : c = '-' ∨ c = '.'
  · rw [snakeLetter_of_separator h]
    rcases h with rfl | rfl <;> decide
  · rw [snakeLetter_of_ascii hc h]
    have hseparator := (plain_toLower hc h).2.2
    simp [List.filter_cons, hseparator]

theorem filter_snakeFrom (h : ∀ c ∈ cs, c.toNat < 128) (before : Option Char) :
    (snakeFrom before cs).filter (· ≠ '_') =
      (cs.map Char.toLower).filter fun d => d ≠ '_' ∧ d ≠ '-' ∧ d ≠ '.' := by
  induction cs generalizing before with
  | nil => rfl
  | cons c rest ih =>
    obtain ⟨hc, hrest⟩ := List.forall_mem_cons.mp h
    have hopen : (if opensWord before c rest.head? then ['_'] else []).filter (· ≠ '_') = [] := by
      split <;> rfl
    rw [snakeFrom, List.filter_append, List.filter_append, hopen, filter_snakeLetter hc,
      ih hrest, List.nil_append, ← List.filter_append]
    rfl

/-- Snake case has neither capitals nor separators other than underscores, keeps all else of the
text in its order and in lowercase, and is its own snake case. -/
theorem snakeCase_ascii (s : String) (h : ∀ c ∈ s.toList, c.toNat < 128) :
    (∀ c ∈ (snakeCase s).toList, c.toNat < 128 ∧ c.isUpper = false ∧ c ≠ '-' ∧ c ≠ '.') ∧
    (snakeCase s).toList.filter (· ≠ '_') =
      s.toLower.toList.filter (fun c => c ≠ '_' ∧ c ≠ '-' ∧ c ≠ '.') ∧
    snakeCase (snakeCase s) = snakeCase s := by
  have hplain : ∀ c ∈ (snakeCase s).toList, Plain c := by
    intro c hc
    rw [snakeCase, String.toList_ofList] at hc
    exact plain_of_mem_snakeFrom h none hc
  have hlower : s.toLower.toList = s.toList.map Char.toLower := String.toList_map
  refine ⟨hplain, ?_, ?_⟩
  · rw [snakeCase, String.toList_ofList, filter_snakeFrom h, hlower]
  · rw [snakeCase, snakeFrom_of_plain hplain, String.ofList_toList]

theorem snakeCase_ascii_rpc :
    (∀ c ∈ "GetInfo.RPC2A".toList, c.toNat < 128) ∧
      snakeCase "GetInfo.RPC2A" = "get_info_rpc2_a" ∧
      ("get_info_rpc2_a".toList.filter (· ≠ '_') =
        "GetInfo.RPC2A".toLower.toList.filter (fun c => c ≠ '_' ∧ c ≠ '-' ∧ c ≠ '.')) ∧
      snakeCase "get_info_rpc2_a" = "get_info_rpc2_a" := by
  have hascii : ∀ c ∈ "GetInfo.RPC2A".toList, c.toNat < 128 := by simp
  have hsnake : snakeCase "GetInfo.RPC2A" = "get_info_rpc2_a" := by decide
  obtain ⟨-, hkept, hagain⟩ := snakeCase_ascii "GetInfo.RPC2A" hascii
  rw [hsnake] at hkept hagain
  exact ⟨hascii, hsnake, hkept, hagain⟩

end SchemaForge.Text
