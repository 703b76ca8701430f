import SchemaForge.Number.Binary64

/-! Texts read as numbers: a decimal with an optional fraction and exponent, or a word for what is no
finite number. -/

namespace SchemaForge.Binary64

inductive Reading where
  | finite (x : Binary64)
  | infinite (negative : Bool)
  | undefined
deriving Repr, DecidableEq

namespace Reading

def digitsOf (cs : List Char) : List Char × List Char :=
  (cs.takeWhile Char.isDigit, cs.dropWhile Char.isDigit)

/-- The exponent that is all that is left; none is zero. -/
def exponent? : List Char → Option Int
  | [] => some 0
  | e :: rest =>
    let (negative, rest) := match rest with
      | '-' :: r => (true, r)
      | '+' :: r => (false, r)
      | r => (false, r)
    let n : Int := rest.foldl (fun n d => 10 * n + (d.toNat - 48)) 0
    if (e == 'e' || e == 'E') && !rest.isEmpty && rest.all Char.isDigit then
      some (if negative then -n else n)
    else none

def decimal? (negative : Bool) (cs : List Char) : Option Reading := do
  let (whole, rest) := digitsOf cs
  let (fraction, rest) := match rest with
    | '.' :: r => digitsOf r
    | r => ([], r)
  let digits := whole ++ fraction
  if digits.isEmpty then none
  else
    let power := (← exponent? rest) - fraction.length
    match ofDecimal? negative (digits.foldl (fun n d => 10 * n + (d.toNat - 48)) 0) power with
    | some x => some (finite x)
    | none => some (infinite negative)

def ofText? (s : String) : Option Reading :=
  let (negative, cs) := match s.toList with
    | '-' :: rest => (true, rest)
    | '+' :: rest => (false, rest)
    | cs => (false, cs)
  match String.ofList (cs.map Char.toLower) with
  | "inf" | "infinity" => some (infinite negative)
  | "nan" => some undefined
  | _ => decimal? negative cs

end Reading

def compareText? (x : Binary64) (s : String) : Option Ordering :=
  match Reading.ofText? s with
  | some (.finite y) => some (x.compare y)
  | some (.infinite negative) => some (if negative then .gt else .lt)
  | some .undefined => none
  | none => none

end SchemaForge.Binary64
