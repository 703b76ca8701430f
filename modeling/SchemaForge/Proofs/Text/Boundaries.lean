import SchemaForge.Proofs.Text.ByteOrder
import SchemaForge.Proofs.Text.Utf8

/-! Where characters begin in encoded text. An ASCII byte is always a character of its own, and
text whose bytes begin with those of another begins with it, so a text that begins with an ASCII
character is found among the bytes just where it is found among the characters. -/

namespace SchemaForge.Utf8

theorem length_encodeChar (c : Char) : (encodeChar c).length = c.utf8Size := by
  have hvalue : c.val.toNat = c.toNat := rfl
  unfold encodeChar Char.utf8Size
  simp only [UInt32.le_iff_toNat_le, hvalue, UInt32.toNat_ofNatLT]
  split_ifs <;> simp only [List.length_cons, List.length_nil] <;> omega

theorem encodeChar_of_ascii {c : Char} (h : c.toNat < 0x80) : encodeChar c = [c.toUInt8] := by
  unfold encodeChar
  dsimp only
  rw [if_pos h]
  rfl

theorem ascii_of_mem_encodeChar {c : Char} {b : UInt8} (hb : b ∈ encodeChar c)
    (hascii : b.toNat < 0x80) : c.toNat < 0x80 := by
  have hvalid : c.toNat < 0x110000 := by
    have hvalid : c.toNat < 0xD800 ∨ 0xDFFF < c.toNat ∧ c.toNat < 0x110000 := c.valid
    omega
  by_contra hwide
  unfold encodeChar at hb
  dsimp only at hb
  rw [if_neg hwide] at hb
  split_ifs at hb <;>
  · simp only [List.mem_cons, List.not_mem_nil, or_false, ← UInt8.toNat_inj,
      UInt8.toNat_ofNat'] at hb
    omega

theorem exists_of_ascii_byte {text : List Char} {i : Nat} {b : UInt8}
    (h : (encode text)[i]? = some b) (hascii : b.toNat < 0x80) :
    ∃ lead rest, text = lead ++ rest ∧ (encode lead).length = i := by
  induction text generalizing i with
  | nil => simp at h
  | cons c text ih =>
    rw [encode_cons] at h
    by_cases hi : i < (encodeChar c).length
    · rw [List.getElem?_append_left hi] at h
      have hc := ascii_of_mem_encodeChar (List.mem_of_getElem? h) hascii
      rw [encodeChar_of_ascii hc, List.length_singleton] at hi
      exact ⟨[], c :: text, rfl, by rw [encode_nil, List.length_nil]; omega⟩
    · rw [List.getElem?_append_right (Nat.le_of_not_lt hi)] at h
      obtain ⟨lead, rest, rfl, hlead⟩ := ih h
      refine ⟨c :: lead, rest, rfl, ?_⟩
      rw [encode_cons, List.length_append, hlead]
      omega

theorem prefix_of_encode_prefix {a b : List Char} (h : encode a <+: encode b) : a <+: b := by
  obtain ⟨tail, htail⟩ := h
  have ha := decodeFrom_encode_append a incomplete_nil
  have hb := decodeFrom_encode_append b incomplete_nil
  rw [List.append_nil] at ha hb
  rw [← htail, decodeFrom_append, ha] at hb
  obtain ⟨⟨rest, kept⟩, -, hrest⟩ := Option.map_eq_some_iff.mp hb
  exact ⟨rest, congrArg Prod.fst hrest⟩

end SchemaForge.Utf8
