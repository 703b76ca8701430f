/-! Finite numbers of 64 bits: a sign and a mantissa of at most 53 bits times a power of two. Each
number has one form, so numbers of one sign are ordered by exponent and then by mantissa. -/

namespace SchemaForge

structure Binary64 where
  negative : Bool
  /-- Below 2^53, and at least 2^52 unless the exponent is the least one. -/
  mantissa : Nat
  exponent : Int
deriving Repr, DecidableEq, Inhabited

namespace Binary64

def leastExponent : Int := -1074
def greatestExponent : Int := 971

def zero (negative : Bool) : Binary64 :=
  ⟨negative, 0, leastExponent⟩

def isZero (x : Binary64) : Bool :=
  x.mantissa == 0

def isNormal (x : Binary64) : Bool :=
  Nat.pow 2 52 ≤ x.mantissa

/-- A quotient rounded to the nearest integer, a half to the even one. -/
def roundDiv (num den : Nat) : Nat :=
  let q := num / den
  let twice := 2 * (num % den)
  if twice < den || (twice == den && q % 2 == 0) then q else q + 1

/-- The exponent at which a quotient has a mantissa of 53 bits, or the least one. -/
def exponentOf (num den : Nat) : Int :=
  let guess : Int := (num.log2 : Int) - den.log2 - 52
  let short :=
    num * Nat.pow 2 (-guess).toNat / (den * Nat.pow 2 guess.toNat) < Nat.pow 2 52
  max leastExponent (if short then guess - 1 else guess)

def ofRatio? (negative : Bool) (num den : Nat) : Option Binary64 :=
  if num = 0 then some (zero negative)
  else
    let e := exponentOf num den
    let m := roundDiv (num * Nat.pow 2 (-e).toNat) (den * Nat.pow 2 e.toNat)
    let (m, e) := if m = Nat.pow 2 53 then (Nat.pow 2 52, e + 1) else (m, e)
    if greatestExponent < e then none else some ⟨negative, m, e⟩

/-- The number nearest to `digits` times a power of ten; none if that is too large. Powers far out
of range are not computed. -/
def ofDecimal? (negative : Bool) (digits : Nat) (power : Int) : Option Binary64 :=
  let size := (Nat.toDigits 10 digits).length
  if digits = 0 || power + size < -400 then some (zero negative)
  else if 400 < power + size then none
  else ofRatio? negative (digits * Nat.pow 10 power.toNat) (Nat.pow 10 (-power).toNat)

def ofInt (n : Int) : Binary64 :=
  (ofRatio? (n < 0) n.natAbs 1).getD (zero false)

def compareSize (x y : Binary64) : Ordering :=
  (compare x.exponent y.exponent).then (compare x.mantissa y.mantissa)

/-- The order of the values; the two zeros are equal. -/
protected def compare (x y : Binary64) : Ordering :=
  if x.isZero && y.isZero then .eq
  else match x.negative, y.negative with
    | false, false => compareSize x y
    | true, true => compareSize y x
    | true, false => .lt
    | false, true => .gt

end Binary64

end SchemaForge
