/-! Dates and times in TOML text: a date, a time, or both with an optional offset. No rule reads
one, so they are only checked. -/

namespace SchemaForge.Toml

def twoDigits? : List Char → Option (Nat × List Char)
  | a :: b :: rest =>
    if a.isDigit && b.isDigit then some (10 * (a.toNat - 48) + (b.toNat - 48), rest) else none
  | _ => none

def isLeap (year : Nat) : Bool :=
  year % 4 == 0 && (year % 100 != 0 || year % 400 == 0)

def daysIn (year month : Nat) : Nat :=
  if month == 2 then (if isLeap year then 29 else 28)
  else if [4, 6, 9, 11].contains month then 30
  else 31

def afterDate? (cs : List Char) : Option (List Char) := do
  let (century, rest) ← twoDigits? cs
  let (year, rest) ← twoDigits? rest
  match rest with
  | '-' :: rest =>
    let (month, rest) ← twoDigits? rest
    match rest with
    | '-' :: rest =>
      let (day, rest) ← twoDigits? rest
      if 1 ≤ month && month ≤ 12 && 1 ≤ day && day ≤ daysIn (100 * century + year) month then
        some rest
      else none
    | _ => none
  | _ => none

def afterFraction? : List Char → Option (List Char)
  | '.' :: rest => if rest.head?.any Char.isDigit then some (rest.dropWhile Char.isDigit) else none
  | cs => some cs

def afterTime? (cs : List Char) : Option (List Char) := do
  let (hour, rest) ← twoDigits? cs
  match rest with
  | ':' :: rest =>
    let (minute, rest) ← twoDigits? rest
    if 23 < hour || 59 < minute then none
    else match rest with
      | ':' :: rest =>
        let (second, rest) ← twoDigits? rest
        if 60 < second then none else afterFraction? rest
      | _ => some rest
  | _ => none

def afterOffset? (cs : List Char) : Option (List Char) :=
  match cs with
  | [] => some []
  | c :: rest =>
    if c == 'Z' || c == 'z' then some rest
    else if c == '+' || c == '-' then do
      let (hours, rest) ← twoDigits? rest
      match rest with
      | ':' :: rest =>
        let (minutes, rest) ← twoDigits? rest
        if 23 < hours || 59 < minutes then none else some rest
      | _ => none
    else some cs

def looksLikeMoment : List Char → Bool
  | a :: b :: ':' :: _ => a.isDigit && b.isDigit
  | a :: b :: c :: d :: '-' :: _ => [a, b, c, d].all Char.isDigit
  | _ => false

/-- The rest after a date, a time or both, which a letter or a single space divides. -/
def afterMoment? (cs : List Char) : Option (List Char) :=
  match afterDate? cs with
  | none => afterTime? cs
  | some (c :: rest) =>
    if c == 'T' || c == 't' then do afterOffset? (← afterTime? rest)
    else if c == ' ' && looksLikeMoment rest then do afterOffset? (← afterTime? rest)
    else some (c :: rest)
  | some [] => some []

end SchemaForge.Toml
