import SchemaForge.Json.Basic

/-! Reading JSON text. Containers may nest up to a limit, and a number that is no integer of 64 bits
becomes the nearest number of 64 bits, which has to exist. A shape tells which members of records
are of no interest: their values are skipped, and only have to look like JSON. -/

namespace SchemaForge.Json

inductive ParseError where
  | unexpectedEnd
  | unexpected (c : Char)
  | badEscape
  | badNumber
  | tooDeep
  | trailing
deriving Repr, DecidableEq

def isSpace (c : Char) : Bool :=
  c == ' ' || c == '\n' || c == '\t' || c == '\r'

def skipSpace (cs : List Char) : List Char :=
  cs.dropWhile isSpace

def hexValue? (c : Char) : Option Nat :=
  if '0' ≤ c && c ≤ '9' then some (c.toNat - 48)
  else if 'a' ≤ c && c ≤ 'f' then some (c.toNat - 87)
  else if 'A' ≤ c && c ≤ 'F' then some (c.toNat - 55)
  else none

def unit? (a b c d : Char) : Option Nat := do
  let a ← hexValue? a
  let b ← hexValue? b
  let c ← hexValue? c
  let d ← hexValue? d
  some (((a * 16 + b) * 16 + c) * 16 + d)

def simpleEscape? : Char → Option Char
  | '"' => some '"'
  | '\\' => some '\\'
  | '/' => some '/'
  | 'b' => some '\x08'
  | 'f' => some '\x0c'
  | 'n' => some '\n'
  | 'r' => some '\r'
  | 't' => some '\t'
  | _ => none

/-- Reads a string from after its opening quote; `high` is a first surrogate whose second has to
follow. -/
def readString (high : Option Nat) (acc : List Char) : List Char → Except ParseError (String × List Char)
  | [] => .error .unexpectedEnd
  | '\\' :: 'u' :: a :: b :: c :: d :: rest =>
    match high, unit? a b c d with
    | _, none => .error .badEscape
    | none, some n =>
      if 0xD800 ≤ n && n ≤ 0xDBFF then readString (some n) acc rest
      else if 0xDC00 ≤ n && n ≤ 0xDFFF then .error .badEscape
      else readString none (Char.ofNat n :: acc) rest
    | some h, some n =>
      if 0xDC00 ≤ n && n ≤ 0xDFFF then
        readString none (Char.ofNat (0x10000 + (h - 0xD800) * 0x400 + (n - 0xDC00)) :: acc) rest
      else .error .badEscape
  | '\\' :: c :: rest =>
    match high, simpleEscape? c with
    | none, some e => readString none (e :: acc) rest
    | _, _ => .error .badEscape
  | c :: rest =>
    if high.isSome then .error .badEscape
    else if c == '"' then .ok (String.ofList acc.reverse, rest)
    else if c.toNat < 32 then .error (.unexpected c)
    else readString none (c :: acc) rest

def digitsValue (ds : List Char) : Nat :=
  ds.foldl (fun n d => 10 * n + (d.toNat - 48)) 0

def readFraction (cs : List Char) : Except ParseError (List Char × List Char) :=
  match cs with
  | '.' :: rest =>
    let ds := rest.takeWhile Char.isDigit
    if ds.isEmpty then .error .badNumber else .ok (ds, rest.dropWhile Char.isDigit)
  | _ => .ok ([], cs)

def readExponent (cs : List Char) : Except ParseError (Option Int × List Char) :=
  match cs with
  | c :: rest =>
    if c == 'e' || c == 'E' then
      let (negative, rest) := match rest with
        | '+' :: r => (false, r)
        | '-' :: r => (true, r)
        | r => (false, r)
      let ds := rest.takeWhile Char.isDigit
      if ds.isEmpty then .error .badNumber
      else
        let n : Int := digitsValue ds
        .ok (some (if negative then -n else n), rest.dropWhile Char.isDigit)
    else .ok (none, cs)
  | [] => .ok (none, cs)

structure Numeral where
  negative : Bool
  whole : List Char
  fraction : List Char
  exponent : Option Int
deriving Repr, DecidableEq

def readNumeral (cs : List Char) : Except ParseError (Numeral × List Char) := do
  let (negative, cs) := match cs with
    | '-' :: r => (true, r)
    | r => (false, r)
  let whole := cs.takeWhile Char.isDigit
  let rest := cs.dropWhile Char.isDigit
  if whole.isEmpty || (whole.length > 1 && whole.head? == some '0') then .error .badNumber
  else
    let (fraction, rest) ← readFraction rest
    let (exponent, rest) ← readExponent rest
    .ok (⟨negative, whole, fraction, exponent⟩, rest)

namespace Numeral

/-- The integer of 64 bits that is written; minus zero is none. -/
def int? (n : Numeral) : Option Int :=
  let size := digitsValue n.whole
  if !n.fraction.isEmpty || n.exponent.isSome then none
  else if n.negative then
    if size == 0 || size > Nat.pow 2 63 then none else some (-size)
  else if size ≥ Nat.pow 2 64 then none else some size

def real? (n : Numeral) : Option Binary64 :=
  Binary64.ofDecimal? n.negative (digitsValue (n.whole ++ n.fraction))
    (n.exponent.getD 0 - n.fraction.length)

end Numeral

def readNumber (cs : List Char) : Except ParseError (Json × List Char) := do
  let (numeral, rest) ← readNumeral cs
  match numeral.int?, numeral.real? with
  | some n, _ => .ok (.int n, rest)
  | none, some x => .ok (.real x, rest)
  | none, none => .error .badNumber

def readWord (word : List Char) (value : α) (cs : List Char) : Except ParseError (α × List Char) :=
  match word, cs with
  | [], rest => .ok (value, rest)
  | _ :: _, [] => .error .unexpectedEnd
  | w :: word, c :: rest => if w == c then readWord word value rest else .error (.unexpected c)

section Skipping

/-- The rest after a string, from after its opening quote; its surrogates need no partners. -/
def skipString : List Char → Except ParseError (List Char)
  | [] => .error .unexpectedEnd
  | '\\' :: 'u' :: a :: b :: c :: d :: rest =>
    if (unit? a b c d).isSome then skipString rest else .error .badEscape
  | '\\' :: c :: rest => if (simpleEscape? c).isSome then skipString rest else .error .badEscape
  | c :: rest =>
    if c == '"' then .ok rest
    else if c.toNat < 32 then .error (.unexpected c)
    else skipString rest

mutual

/-- The rest after a value, however deep and however large its numbers. -/
def skipValue : (fuel : Nat) → List Char → Except ParseError (List Char)
  | 0, _ => .error .tooDeep
  | _ + 1, [] => .error .unexpectedEnd
  | fuel + 1, c :: rest =>
    match c with
    | '"' => skipString rest
    | '[' => match skipSpace rest with
      | ']' :: r => .ok r
      | r => skipItems fuel r
    | '\x7b' => match skipSpace rest with
      | '\x7d' :: r => .ok r
      | r => skipMembers fuel r
    | 'n' => (readWord ['u', 'l', 'l'] () rest).map (·.2)
    | 't' => (readWord ['r', 'u', 'e'] () rest).map (·.2)
    | 'f' => (readWord ['a', 'l', 's', 'e'] () rest).map (·.2)
    | c =>
      if c == '-' || c.isDigit then (readNumeral (c :: rest)).map (·.2)
      else .error (.unexpected c)

def skipItems : (fuel : Nat) → List Char → Except ParseError (List Char)
  | 0, _ => .error .tooDeep
  | fuel + 1, cs => do
    match skipSpace (← skipValue fuel cs) with
    | ',' :: r => skipItems fuel (skipSpace r)
    | ']' :: r => .ok r
    | c :: _ => .error (.unexpected c)
    | [] => .error .unexpectedEnd

def skipMembers : (fuel : Nat) → List Char → Except ParseError (List Char)
  | 0, _ => .error .tooDeep
  | fuel + 1, cs => do
    match cs with
    | '"' :: rest =>
      match skipSpace (← skipString rest) with
      | ':' :: rest =>
        match skipSpace (← skipValue fuel (skipSpace rest)) with
        | ',' :: r => skipMembers fuel (skipSpace r)
        | '\x7d' :: r => .ok r
        | c :: _ => .error (.unexpected c)
        | [] => .error .unexpectedEnd
      | c :: _ => .error (.unexpected c)
      | [] => .error .unexpectedEnd
    | c :: _ => .error (.unexpected c)
    | [] => .error .unexpectedEnd

end

end Skipping

/-- What is expected of a value as far as it decides what is skipped. -/
inductive Shape where
  | value
  | list (item : Shape)
  /-- An object with these members, or an array of their values; other members are read all the
  same or skipped. -/
  | record (fields : List (String × Shape)) (skipOthers : Bool)
deriving Repr, Inhabited

namespace Shape

def item (s : Shape) (index : Nat) : Shape :=
  match s with
  | list item => item
  | record fields _ => (fields[index]?).elim value (·.2)
  | value => value

/-- The shape of a member; none if it is skipped. -/
def member (s : Shape) (key : String) : Option Shape :=
  match s with
  | record fields skipOthers =>
    match fields.lookup key with
    | some shape => some shape
    | none => if skipOthers then none else some value
  | _ => some value

end Shape

mutual

def readValue : (fuel depth : Nat) → Shape → List Char → Except ParseError (Json × List Char)
  | 0, _, _, _ => .error .tooDeep
  | _ + 1, _, _, [] => .error .unexpectedEnd
  | fuel + 1, depth, shape, c :: rest =>
    match c with
    | '"' => (readString none [] rest).map fun (s, r) => (.str s, r)
    | '[' =>
      if depth ≤ 1 then .error .tooDeep
      else match skipSpace rest with
        | ']' :: r => .ok (.arr [], r)
        | r => readItems fuel (depth - 1) shape [] r
    | '\x7b' =>
      if depth ≤ 1 then .error .tooDeep
      else match skipSpace rest with
        | '\x7d' :: r => .ok (.obj [], r)
        | r => readMembers fuel (depth - 1) shape [] r
    | 'n' => readWord ['u', 'l', 'l'] .null rest
    | 't' => readWord ['r', 'u', 'e'] (.bool true) rest
    | 'f' => readWord ['a', 'l', 's', 'e'] (.bool false) rest
    | c => if c == '-' || c.isDigit then readNumber (c :: rest) else .error (.unexpected c)

def readItems : (fuel depth : Nat) → Shape → List Json → List Char → Except ParseError (Json × List Char)
  | 0, _, _, _, _ => .error .tooDeep
  | fuel + 1, depth, shape, acc, cs => do
    let (v, rest) ← readValue fuel depth (shape.item acc.length) cs
    match skipSpace rest with
    | ',' :: r => readItems fuel depth shape (v :: acc) (skipSpace r)
    | ']' :: r => .ok (.arr (v :: acc).reverse, r)
    | c :: _ => .error (.unexpected c)
    | [] => .error .unexpectedEnd

def readMembers : (fuel depth : Nat) → Shape → List (String × Json) → List Char →
    Except ParseError (Json × List Char)
  | 0, _, _, _, _ => .error .tooDeep
  | fuel + 1, depth, shape, acc, cs => do
    match cs with
    | '"' :: rest =>
      let (k, rest) ← readString none [] rest
      match skipSpace rest with
      | ':' :: rest =>
        let (acc, rest) ← match shape.member k with
          | some s => (readValue fuel depth s (skipSpace rest)).map fun (v, r) => ((k, v) :: acc, r)
          | none => (skipValue (2 * rest.length + 2) (skipSpace rest)).map fun r => (acc, r)
        match skipSpace rest with
        | ',' :: r => readMembers fuel depth shape acc (skipSpace r)
        | '\x7d' :: r => .ok (.obj acc.reverse, r)
        | c :: _ => .error (.unexpected c)
        | [] => .error .unexpectedEnd
      | c :: _ => .error (.unexpected c)
      | [] => .error .unexpectedEnd
    | c :: _ => .error (.unexpected c)
    | [] => .error .unexpectedEnd

end

/-- How deep containers may nest, plus one. -/
def depthLimit : Nat := 128

def parseAs (shape : Shape) (text : String) : Except ParseError Json := do
  let cs := text.toList
  let (v, rest) ← readValue (2 * cs.length + 2) depthLimit shape (skipSpace cs)
  if (skipSpace rest).isEmpty then .ok v else .error .trailing

def parse (text : String) : Except ParseError Json :=
  parseAs .value text

end SchemaForge.Json
