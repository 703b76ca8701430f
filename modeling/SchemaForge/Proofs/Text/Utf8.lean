import Mathlib.Tactic.Common
import SchemaForge.Text.Utf8

/-! Encoded text reads back. Encoded characters followed by the beginning of one more are decoded
into the characters, and the bytes of the beginning are kept. -/

namespace SchemaForge.Utf8

/-- The bytes of a character that has not ended; none if no character has begun. -/
def Incomplete (tail : List UInt8) : Prop :=
  ∃ c, tail <+: encodeChar c ∧ tail ≠ encodeChar c

inductive Sequence : List UInt8 → Char → Prop where
  | one {b : UInt8} (hb : following? b = some 0) : Sequence [b] (Char.ofNat b.toNat)
  | two {b0 b1 : UInt8} (h0 : following? b0 = some 1) (h1 : isSecond b0 b1 = true) :
      Sequence [b0, b1] (Char.ofNat (b0.toNat % 32 * 64 + low6 b1))
  | three {b0 b1 b2 : UInt8} (h0 : following? b0 = some 2) (h1 : isSecond b0 b1 = true)
      (h2 : isFollower b2 = true) :
      Sequence [b0, b1, b2] (Char.ofNat ((b0.toNat % 16 * 64 + low6 b1) * 64 + low6 b2))
  | four {b0 b1 b2 b3 : UInt8} (h0 : following? b0 = some 3) (h1 : isSecond b0 b1 = true)
      (h2 : isFollower b2 = true) (h3 : isFollower b3 = true) :
      Sequence [b0, b1, b2, b3]
        (Char.ofNat (((b0.toNat % 8 * 64 + low6 b1) * 64 + low6 b2) * 64 + low6 b3))

namespace Sequence

theorem decodeFrom_append {bytes : List UInt8} {c : Char} (h : Sequence bytes c)
    (rest : List UInt8) :
    decodeFrom [] (bytes ++ rest) =
      (decodeFrom [] rest).map fun (cs, kept) => (c :: cs, kept) := by
  cases h with
  | one hb => simp [decodeFrom, step, hb]
  | two h0 h1 => simp [decodeFrom, step, h0, h1]
  | three h0 h1 h2 => simp [decodeFrom, step, h0, h1, h2]
  | four h0 h1 h2 h3 => simp [decodeFrom, step, h0, h1, h2, h3]

theorem decodeFrom_begun {bytes tail : List UInt8} {c : Char} (h : Sequence bytes c)
    (hbegun : tail <+: bytes) (hne : tail ≠ bytes) : decodeFrom [] tail = some ([], tail) := by
  cases h with
  | one hb =>
    rcases tail with _ | ⟨last, t⟩
    · rfl
    · simp_all [List.cons_prefix_cons]
  | two h0 h1 =>
    rcases tail with _ | ⟨x, _ | ⟨last, t⟩⟩
    · rfl
    · simp_all [List.cons_prefix_cons, decodeFrom, step]
    · simp_all [List.cons_prefix_cons]
  | three h0 h1 h2 =>
    rcases tail with _ | ⟨x, _ | ⟨y, _ | ⟨last, t⟩⟩⟩
    · rfl
    · simp_all [List.cons_prefix_cons, decodeFrom, step]
    · simp_all [List.cons_prefix_cons, decodeFrom, step]
    · simp_all [List.cons_prefix_cons]
  | four h0 h1 h2 h3 =>
    rcases tail with _ | ⟨x, _ | ⟨y, _ | ⟨z, _ | ⟨last, t⟩⟩⟩⟩
    · rfl
    · simp_all [List.cons_prefix_cons, decodeFrom, step]
    · simp_all [List.cons_prefix_cons, decodeFrom, step]
    · simp_all [List.cons_prefix_cons, decodeFrom, step]
    · simp_all [List.cons_prefix_cons]

end Sequence

/-! The classes of bytes, as ranges of numbers. -/

theorem following?_eq_zero {b : UInt8} (h : b.toNat < 0x80) : following? b = some 0 := by
  simp [following?, UInt8.lt_iff_toNat_lt, h]

theorem following?_eq_one {b : UInt8} (hlow : 0xC2 ≤ b.toNat) (hhigh : b.toNat ≤ 0xDF) :
    following? b = some 1 := by
  have h : ¬ b.toNat < 0x80 := by omega
  simp [following?, UInt8.lt_iff_toNat_lt, UInt8.le_iff_toNat_le, h, hlow, hhigh]

theorem following?_eq_two {b : UInt8} (hlow : 0xE0 ≤ b.toNat) (hhigh : b.toNat ≤ 0xEF) :
    following? b = some 2 := by
  have h : ¬ b.toNat < 0x80 := by omega
  have h' : ¬ b.toNat ≤ 0xDF := by omega
  simp [following?, UInt8.lt_iff_toNat_lt, UInt8.le_iff_toNat_le, h, h', hlow, hhigh]

theorem following?_eq_three {b : UInt8} (hlow : 0xF0 ≤ b.toNat) (hhigh : b.toNat ≤ 0xF4) :
    following? b = some 3 := by
  have h : ¬ b.toNat < 0x80 := by omega
  have h' : ¬ b.toNat ≤ 0xDF := by omega
  have h'' : ¬ b.toNat ≤ 0xEF := by omega
  simp [following?, UInt8.lt_iff_toNat_lt, UInt8.le_iff_toNat_le, h, h', h'', hlow, hhigh]

theorem isFollower_iff {b : UInt8} : isFollower b = true ↔ 0x80 ≤ b.toNat ∧ b.toNat ≤ 0xBF := by
  simp [isFollower, UInt8.le_iff_toNat_le]

theorem isSecond_of_ranges {b0 b : UInt8} (h : 0x80 ≤ b.toNat ∧ b.toNat ≤ 0xBF)
    (hE0 : b0.toNat = 0xE0 → 0xA0 ≤ b.toNat) (hED : b0.toNat = 0xED → b.toNat ≤ 0x9F)
    (hF0 : b0.toNat = 0xF0 → 0x90 ≤ b.toNat) (hF4 : b0.toNat = 0xF4 → b.toNat ≤ 0x8F) :
    isSecond b0 b = true := by
  unfold isSecond
  simp only [← UInt8.toNat_inj, UInt8.le_iff_toNat_le, UInt8.reduceToNat, isFollower]
  split_ifs <;> simp_all

private theorem toNat_ofNat_of_lt {n : Nat} (h : n < 256) : (UInt8.ofNat n).toNat = n := by
  simp [Nat.mod_eq_of_lt h]

theorem sequence_encodeChar (c : Char) : Sequence (encodeChar c) c := by
  have hvalid : c.toNat < 0xD800 ∨ 0xDFFF < c.toNat ∧ c.toNat < 0x110000 := c.valid
  have hback := Char.ofNat_toNat c
  unfold encodeChar
  generalize c.toNat = n at hvalid hback ⊢
  subst hback
  have hlow : (UInt8.ofNat (0x80 + n % 64)).toNat = 0x80 + n % 64 := toNat_ofNat_of_lt (by omega)
  have hmiddle : (UInt8.ofNat (0x80 + n / 64 % 64)).toNat = 0x80 + n / 64 % 64 :=
    toNat_ofNat_of_lt (by omega)
  have hupper : (UInt8.ofNat (0x80 + n / 4096 % 64)).toNat = 0x80 + n / 4096 % 64 :=
    toNat_ofNat_of_lt (by omega)
  dsimp only
  split_ifs with h1 h2 h3
  · have hb : (UInt8.ofNat n).toNat = n := toNat_ofNat_of_lt (by omega)
    have h := Sequence.one (following?_eq_zero (b := UInt8.ofNat n) (by omega))
    rwa [hb] at h
  · have hb : (UInt8.ofNat (0xC0 + n / 64)).toNat = 0xC0 + n / 64 := toNat_ofNat_of_lt (by omega)
    have h := @Sequence.two (UInt8.ofNat (0xC0 + n / 64)) (UInt8.ofNat (0x80 + n % 64))
      (following?_eq_one (by omega) (by omega))
      (isSecond_of_ranges (by omega) (by omega) (by omega) (by omega) (by omega))
    rw [low6, hb, hlow] at h
    convert h using 2
    omega
  · have hb : (UInt8.ofNat (0xE0 + n / 4096)).toNat = 0xE0 + n / 4096 :=
      toNat_ofNat_of_lt (by omega)
    have h := @Sequence.three (UInt8.ofNat (0xE0 + n / 4096))
      (UInt8.ofNat (0x80 + n / 64 % 64)) (UInt8.ofNat (0x80 + n % 64))
      (following?_eq_two (by omega) (by omega))
      (isSecond_of_ranges (by omega) (by omega) (by omega) (by omega) (by omega))
      (isFollower_iff.mpr (by omega))
    rw [low6, low6, hb, hmiddle, hlow] at h
    convert h using 2
    omega
  · have hb : (UInt8.ofNat (0xF0 + n / 262144)).toNat = 0xF0 + n / 262144 :=
      toNat_ofNat_of_lt (by omega)
    have h := @Sequence.four (UInt8.ofNat (0xF0 + n / 262144))
      (UInt8.ofNat (0x80 + n / 4096 % 64)) (UInt8.ofNat (0x80 + n / 64 % 64))
      (UInt8.ofNat (0x80 + n % 64)) (following?_eq_three (by omega) (by omega))
      (isSecond_of_ranges (by omega) (by omega) (by omega) (by omega) (by omega))
      (isFollower_iff.mpr (by omega)) (isFollower_iff.mpr (by omega))
    rw [low6, low6, low6, hb, hupper, hmiddle, hlow] at h
    convert h using 2
    omega

theorem decodeFrom_encode_append (text : List Char) {tail : List UInt8} (htail : Incomplete tail) :
    decodeFrom [] (encode text ++ tail) = some (text, tail) := by
  induction text with
  | nil =>
    obtain ⟨c, hbegun, hne⟩ := htail
    exact (sequence_encodeChar c).decodeFrom_begun hbegun hne
  | cons c rest ih =>
    have hcons : encode (c :: rest) = encodeChar c ++ encode rest := rfl
    rw [hcons, List.append_assoc, (sequence_encodeChar c).decodeFrom_append, ih]
    rfl

theorem incomplete_nil : Incomplete [] :=
  ⟨'\n', List.nil_prefix, by decide⟩

end SchemaForge.Utf8
