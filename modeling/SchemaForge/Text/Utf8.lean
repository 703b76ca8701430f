/-! UTF-8, one byte at a time. The decoder keeps the bytes of a character that has not ended yet,
so a text may be cut anywhere between two of its bytes. -/

namespace SchemaForge.Utf8

def following? (b : UInt8) : Option Nat :=
  if b < 0x80 then some 0
  else if 0xC2 ≤ b && b ≤ 0xDF then some 1
  else if 0xE0 ≤ b && b ≤ 0xEF then some 2
  else if 0xF0 ≤ b && b ≤ 0xF4 then some 3
  else none

def isFollower (b : UInt8) : Bool :=
  0x80 ≤ b && b ≤ 0xBF

/-- The second byte rules out overlong forms, surrogates and codes beyond the last. -/
def isSecond (first b : UInt8) : Bool :=
  if first = 0xE0 then 0xA0 ≤ b && b ≤ 0xBF
  else if first = 0xED then 0x80 ≤ b && b ≤ 0x9F
  else if first = 0xF0 then 0x90 ≤ b && b ≤ 0xBF
  else if first = 0xF4 then 0x80 ≤ b && b ≤ 0x8F
  else isFollower b

def low6 (b : UInt8) : Nat :=
  b.toNat % 64

/-- What one more byte makes of the bytes kept so far. -/
inductive Step where
  | char (c : Char)
  | wait (kept : List UInt8)
  | invalid

def step (kept : List UInt8) (b : UInt8) : Step :=
  match kept with
  | [] =>
    match following? b with
    | none => .invalid
    | some 0 => .char (Char.ofNat b.toNat)
    | some _ => .wait [b]
  | [b0] =>
    if isSecond b0 b then
      if following? b0 = some 1 then .char (Char.ofNat (b0.toNat % 32 * 64 + low6 b))
      else .wait [b0, b]
    else .invalid
  | [b0, b1] =>
    if isFollower b then
      if following? b0 = some 2 then
        .char (Char.ofNat ((b0.toNat % 16 * 64 + low6 b1) * 64 + low6 b))
      else .wait [b0, b1, b]
    else .invalid
  | [b0, b1, b2] =>
    if isFollower b then
      .char (Char.ofNat (((b0.toNat % 8 * 64 + low6 b1) * 64 + low6 b2) * 64 + low6 b))
    else .invalid
  | _ => .invalid

def decodeFrom (kept : List UInt8) : List UInt8 → Option (List Char × List UInt8)
  | [] => some ([], kept)
  | b :: rest =>
    match step kept b with
    | .invalid => none
    | .wait kept => decodeFrom kept rest
    | .char c => (decodeFrom [] rest).map fun (cs, kept) => (c :: cs, kept)

def decode? (bytes : List UInt8) : Option (List Char) :=
  match decodeFrom [] bytes with
  | some (cs, []) => some cs
  | _ => none

def encodeChar (c : Char) : List UInt8 :=
  let n := c.toNat
  if n < 0x80 then [UInt8.ofNat n]
  else if n < 0x800 then [UInt8.ofNat (0xC0 + n / 64), UInt8.ofNat (0x80 + n % 64)]
  else if n < 0x10000 then
    [UInt8.ofNat (0xE0 + n / 4096), UInt8.ofNat (0x80 + n / 64 % 64), UInt8.ofNat (0x80 + n % 64)]
  else
    [UInt8.ofNat (0xF0 + n / 262144), UInt8.ofNat (0x80 + n / 4096 % 64),
      UInt8.ofNat (0x80 + n / 64 % 64), UInt8.ofNat (0x80 + n % 64)]

def encode (cs : List Char) : List UInt8 :=
  cs.flatMap encodeChar

def encodeString (s : String) : List UInt8 :=
  encode s.toList

@[simp] theorem encode_nil : encode [] = [] := rfl

@[simp] theorem encode_append (a b : List Char) : encode (a ++ b) = encode a ++ encode b := by
  simp [encode]

theorem decodeFrom_append (kept a b : List UInt8) :
    decodeFrom kept (a ++ b) = match decodeFrom kept a with
      | none => none
      | some (cs, k) => (decodeFrom k b).map fun (ds, k') => (cs ++ ds, k') := by
  induction a generalizing kept with
  | nil => cases h : decodeFrom kept b <;> simp [decodeFrom, h]
  | cons x xs ih =>
    simp only [List.cons_append, decodeFrom]
    cases step kept x with
    | invalid => rfl
    | wait k => exact ih k
    | char c =>
      simp only [ih]
      cases decodeFrom [] xs with
      | none => rfl
      | some r =>
        obtain ⟨cs, k⟩ := r
        cases h : decodeFrom k b <;> simp [h]

end SchemaForge.Utf8
