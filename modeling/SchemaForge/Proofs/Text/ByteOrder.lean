import Mathlib.Data.List.Infix
import Mathlib.Data.List.Lex
import Mathlib.Tactic.Common
import SchemaForge.Text.Utf8

/-! Texts in the order of their bytes. Two lists that branch stay in order however they go on, and
of two characters the lesser one's bytes branch below the other's, so ordering texts by their
characters orders them by their bytes. -/

namespace SchemaForge

section Branching

variable {α : Type} {r : α → α → Prop} {a b a' b' : List α}

/-- After a common start the first list goes on with an element before that of the second. -/
def BranchesBefore (r : α → α → Prop) (a b : List α) : Prop :=
  ∃ lead x y, r x y ∧ lead ++ [x] <+: a ∧ lead ++ [y] <+: b

theorem BranchesBefore.extend (h : BranchesBefore r a b) (ha : a <+: a') (hb : b <+: b') :
    BranchesBefore r a' b' := by
  obtain ⟨lead, x, y, hxy, hx, hy⟩ := h
  exact ⟨lead, x, y, hxy, hx.trans ha, hy.trans hb⟩

theorem BranchesBefore.lex (h : BranchesBefore r a b) : List.Lex r a b := by
  obtain ⟨lead, x, y, hxy, ⟨restA, rfl⟩, ⟨restB, rfl⟩⟩ := h
  rw [List.append_assoc, List.append_assoc]
  exact List.Lex.append_left r (List.Lex.rel hxy) lead

theorem lex_of_prefix (h : a <+: b) (hne : a ≠ b) : List.Lex r a b := by
  obtain ⟨rest, rfl⟩ := h
  cases rest with
  | nil => exact absurd (List.append_nil a).symm hne
  | cons x rest => simpa using List.Lex.append_left r (List.Lex.nil : List.Lex r [] (x :: rest)) a

end Branching

namespace Utf8

/-! A number in bytes: one leading byte, and one byte more for each group of six bits. -/

def leading (base n : Nat) : List UInt8 :=
  [UInt8.ofNat (base + n)]

def following (bytes : Nat → List UInt8) (n : Nat) : List UInt8 :=
  bytes (n / 64) ++ [UInt8.ofNat (0x80 + n % 64)]

theorem encodeChar_eq (c : Char) :
    encodeChar c =
      if c.toNat < 0x80 then leading 0 c.toNat
      else if c.toNat < 0x800 then following (leading 0xC0) c.toNat
      else if c.toNat < 0x10000 then following (following (leading 0xE0)) c.toNat
      else following (following (following (leading 0xF0))) c.toNat := by
  simp [encodeChar, leading, following, Nat.div_div_eq_div_mul]

theorem prefix_following {bytes : Nat → List UInt8} {n : Nat} :
    bytes (n / 64) <+: following bytes n :=
  List.prefix_append _ _

theorem ofNat_lt_ofNat {n m : Nat} (h : n < m) (hm : m < 256) : UInt8.ofNat n < UInt8.ofNat m := by
  rw [UInt8.lt_iff_toNat_lt, UInt8.toNat_ofNat', UInt8.toNat_ofNat']
  omega

theorem branches_leading {base base' n m : Nat} (h : base + n < base' + m)
    (hm : base' + m < 256) : BranchesBefore (· < ·) (leading base n) (leading base' m) :=
  ⟨[], _, _, ofNat_lt_ofNat h hm, List.prefix_rfl, List.prefix_rfl⟩

theorem branches_following {bytes : Nat → List UInt8} {n m : Nat} (h : n < m)
    (hbytes : n / 64 < m / 64 → BranchesBefore (· < ·) (bytes (n / 64)) (bytes (m / 64))) :
    BranchesBefore (· < ·) (following bytes n) (following bytes m) := by
  by_cases hlead : n / 64 < m / 64
  · exact (hbytes hlead).extend prefix_following prefix_following
  · have hsame : n / 64 = m / 64 := by omega
    unfold following
    rw [hsame]
    exact ⟨bytes (m / 64), _, _, ofNat_lt_ofNat (by omega) (by omega), List.prefix_rfl,
      List.prefix_rfl⟩

theorem branches_encodeChar {c d : Char} (h : c.toNat < d.toNat) :
    BranchesBefore (· < ·) (encodeChar c) (encodeChar d) := by
  have hd : d.toNat < 0x110000 := by
    have hvalid : d.toNat < 0xD800 ∨ 0xDFFF < d.toNat ∧ d.toNat < 0x110000 := d.valid
    omega
  have two {n : Nat} : leading 0xC0 (n / 64) <+: following (leading 0xC0) n := prefix_following
  have three {n : Nat} : leading 0xE0 (n / 64 / 64) <+: following (following (leading 0xE0)) n :=
    prefix_following.trans prefix_following
  have four {n : Nat} : leading 0xF0 (n / 64 / 64 / 64) <+:
      following (following (following (leading 0xF0))) n :=
    (prefix_following.trans prefix_following).trans prefix_following
  rw [encodeChar_eq, encodeChar_eq]
  generalize c.toNat = n at h ⊢
  generalize d.toNat = m at h hd ⊢
  -- Where the lengths differ the leading bytes branch; where they agree, the first unequal group.
  split_ifs <;> try omega
  · exact branches_leading (by omega) (by omega)
  · exact (branches_leading (by omega) (by omega)).extend List.prefix_rfl two
  · exact (branches_leading (by omega) (by omega)).extend List.prefix_rfl three
  · exact (branches_leading (by omega) (by omega)).extend List.prefix_rfl four
  · exact branches_following h fun h => branches_leading (by omega) (by omega)
  · exact (branches_leading (by omega) (by omega)).extend two three
  · exact (branches_leading (by omega) (by omega)).extend two four
  · exact branches_following h fun h => branches_following h fun h =>
      branches_leading (by omega) (by omega)
  · exact (branches_leading (by omega) (by omega)).extend three four
  · exact branches_following h fun h => branches_following h fun h =>
      branches_following h fun h => branches_leading (by omega) (by omega)

def Before (s t : String) : Prop :=
  List.Lex (· < ·) (encodeString s) (encodeString t)

theorem encode_cons (c : Char) (rest : List Char) :
    encode (c :: rest) = encodeChar c ++ encode rest := rfl

theorem encodeChar_ne_nil (c : Char) : encodeChar c ≠ [] := by
  unfold encodeChar
  dsimp only
  split_ifs <;> exact List.cons_ne_nil _ _

theorem lex_encode {cs ds : List Char} (h : List.Lex (· < ·) cs ds) :
    List.Lex (· < ·) (encode cs) (encode ds) := by
  induction h with
  | nil =>
    refine lex_of_prefix List.nil_prefix (Ne.symm ?_)
    exact List.append_ne_nil_of_left_ne_nil (encodeChar_ne_nil _) _
  | rel hlt =>
    rw [encode_cons, encode_cons]
    exact ((branches_encodeChar hlt).extend (List.prefix_append _ _) (List.prefix_append _ _)).lex
  | cons _ ih =>
    rw [encode_cons, encode_cons]
    exact List.Lex.append_left _ ih _

theorem before_of_lt {s t : String} (h : s < t) : Before s t :=
  lex_encode (List.lex_lt.mpr (String.lt_iff.mp h))

instance : Std.Asymm Before :=
  ⟨fun _ _ h => asymm_of (List.Lex (· < ·)) h⟩

end Utf8

end SchemaForge
