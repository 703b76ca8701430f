import SchemaForge.Number.Binary64

/-! The shortest decimal text of a number: the fewest digits that read back as the number, and of
those the nearest to it. -/

namespace SchemaForge.Binary64

def compareScaled (a : Nat) (p : Int) (b : Nat) (e : Int) : Ordering :=
  compare (a * Nat.pow 10 p.toNat * Nat.pow 2 (-e).toNat)
    (b * Nat.pow 2 e.toNat * Nat.pow 10 (-p).toNat)

/-- Whether `d * 10 ^ p` reads back as a number. With sizes counted in quarters of its last place,
the numbers that do lie between its neighbours' halfway points, which count if it is even. -/
def readsBack (x : Binary64) (d : Nat) (p : Int) : Bool :=
  let least := x.mantissa = Nat.pow 2 52 && leastExponent < x.exponent
  let low := 4 * x.mantissa - (if least then 1 else 2)
  let high := 4 * x.mantissa + 2
  let e := x.exponent - 2
  let fromLow := compareScaled d p low e
  let fromHigh := compareScaled d p high e
  if x.mantissa % 2 = 0 then fromLow.isGE && fromHigh.isLE else fromLow.isGT && fromHigh.isLT

def floorAt (x : Binary64) (p : Int) : Nat :=
  (x.mantissa * Nat.pow 2 x.exponent.toNat * Nat.pow 10 (-p).toNat)
    / (Nat.pow 2 (-x.exponent).toNat * Nat.pow 10 p.toNat)

/-- The neighbour of a number on the grid of a power of ten that reads back, the nearer of two. -/
def onGrid? (x : Binary64) (p : Int) : Option Nat :=
  let d := floorAt x p
  match readsBack x d p, readsBack x (d + 1) p with
  | true, false => some d
  | false, true => some (d + 1)
  | false, false => none
  | true, true =>
    match compareScaled (2 * d + 1) p (2 * x.mantissa) x.exponent with
    | .gt => some d
    | .lt => some (d + 1)
    | .eq => some (if d % 2 = 0 then d else d + 1)

def leadingPower (x : Binary64) : (steps : Nat) → (guess : Int) → Int
  | 0, guess => guess
  | steps + 1, guess => if floorAt x guess = 0 then leadingPower x steps (guess - 1) else guess

/-- The first grid with a hit, from coarse to fine: the digits and their power of ten. -/
def shortestFrom (x : Binary64) : (steps : Nat) → (power : Int) → Nat × Int
  | 0, p => (floorAt x p, p)
  | steps + 1, p =>
    match onGrid? x p with
    | some d => (d, p)
    | none => shortestFrom x steps (p - 1)

def dropZeros : (steps : Nat) → Nat × Int → Nat × Int
  | 0, pair => pair
  | steps + 1, (d, p) => if d % 10 = 0 then dropZeros steps (d / 10, p + 1) else (d, p)

def shortest (x : Binary64) : Nat × Int :=
  let guess : Int := ((x.mantissa.log2 : Int) + x.exponent) * 30103 / 100000 + 1
  let top := leadingPower x 4 guess
  dropZeros 18 (shortestFrom x 17 top)

/-- The text of a number: positional if the point stands at most 16 places after the first digit
and at most 4 before it, else with an exponent. A positional text has a fraction. -/
def text (x : Binary64) : String :=
  let sign := if x.negative then "-" else ""
  if x.isZero then sign ++ "0.0"
  else
    let (d, p) := x.shortest
    let digits := Nat.toDigits 10 d
    let point : Int := digits.length + p
    let zeros (n : Int) : List Char := List.replicate n.toNat '0'
    let body :=
      if 0 ≤ p && point ≤ 16 then digits ++ zeros p ++ ['.', '0']
      else if 0 < point && point ≤ 16 then
        digits.take point.toNat ++ '.' :: digits.drop point.toNat
      else if -5 < point && point ≤ 0 then '0' :: '.' :: zeros (-point) ++ digits
      else
        let lead := match digits with
          | [c] => [c]
          | c :: rest => c :: '.' :: rest
          | [] => []
        lead ++ 'e' :: (toString (point - 1)).toList
    sign ++ String.ofList body

end SchemaForge.Binary64
