/-! Whitespace: the code points with the White_Space property, and trimming by it. -/

namespace SchemaForge.Text

def isBlank (c : Char) : Bool :=
  let n := c.toNat
  (9 ≤ n && n ≤ 13) || n == 0x20 || n == 0x85 || n == 0xA0 || n == 0x1680
    || (0x2000 ≤ n && n ≤ 0x200A) || n == 0x2028 || n == 0x2029 || n == 0x202F
    || n == 0x205F || n == 0x3000

def trimStart (cs : List Char) : List Char :=
  cs.dropWhile isBlank

def trimEnd (cs : List Char) : List Char :=
  (cs.reverse.dropWhile isBlank).reverse

theorem trimEnd_trimEnd (cs : List Char) : trimEnd (trimEnd cs) = trimEnd cs := by
  have h : ∀ l : List Char, (l.dropWhile isBlank).dropWhile isBlank = l.dropWhile isBlank := by
    intro l
    induction l with
    | nil => rfl
    | cons c r ih => by_cases hc : isBlank c <;> simp [hc, ih]
  simp [trimEnd, h]

end SchemaForge.Text
