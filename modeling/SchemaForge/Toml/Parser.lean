import SchemaForge.Number.Reading
import SchemaForge.Toml.Document
import SchemaForge.Toml.Moment

/-! Reading TOML text: tables and arrays of tables, bare, quoted and dotted keys, strings of all
four kinds, integers in four bases, floats, booleans, dates and times, arrays, inline tables and
comments. Values and keys may nest up to a limit. -/

namespace SchemaForge.Toml

def skipBlanks (cs : List Char) : List Char :=
  cs.dropWhile fun c => c == ' ' || c == '\t'

/-- A control character that may stand neither in comments nor in strings. -/
def isControl (c : Char) : Bool :=
  (c.toNat < 32 && c != '\t') || c.toNat == 127

def skipComment (cs : List Char) : Option (List Char) :=
  match cs with
  | '#' :: rest =>
    let body := rest.takeWhile fun c => c != '\n' && c != '\r'
    if body.any isControl then none
    else some (rest.dropWhile fun c => c != '\n' && c != '\r')
  | _ => some cs

def newline? : List Char → Option (List Char)
  | '\n' :: rest => some rest
  | '\r' :: '\n' :: rest => some rest
  | _ => none

/-- Nothing but blanks and a comment may follow on the line. -/
def endLine (cs : List Char) : Option (List Char) := do
  match ← skipComment (skipBlanks cs) with
  | [] => some []
  | rest => newline? rest

def skipLayout : Nat → List Char → Option (List Char)
  | 0, _ => none
  | fuel + 1, cs => do
    let rest ← skipComment (skipBlanks cs)
    match newline? rest with
    | some rest => skipLayout fuel rest
    | none => some rest

def hexDigit? (c : Char) : Option Nat :=
  if '0' ≤ c && c ≤ '9' then some (c.toNat - 48)
  else if 'a' ≤ c && c ≤ 'f' then some (c.toNat - 87)
  else if 'A' ≤ c && c ≤ 'F' then some (c.toNat - 55)
  else none

def unicodeEscape (count : Nat) (cs : List Char) : Option (Char × List Char) := do
  let digits := cs.take count
  if digits.length < count then none
  else
    let n ← digits.foldlM (fun n c => (hexDigit? c).map (16 * n + ·)) 0
    if n < 0xD800 || (0xDFFF < n && n < 0x110000) then some (Char.ofNat n, cs.drop count) else none

def readEscape : List Char → Option (Char × List Char)
  | 'b' :: rest => some ('\x08', rest)
  | 't' :: rest => some ('\t', rest)
  | 'n' :: rest => some ('\n', rest)
  | 'f' :: rest => some ('\x0c', rest)
  | 'r' :: rest => some ('\r', rest)
  | '"' :: rest => some ('"', rest)
  | '\\' :: rest => some ('\\', rest)
  | 'e' :: rest => some ('\x1b', rest)
  | 'x' :: rest => unicodeEscape 2 rest
  | 'u' :: rest => unicodeEscape 4 rest
  | 'U' :: rest => unicodeEscape 8 rest
  | _ => none

def readBasic : Nat → List Char → List Char → Option (String × List Char)
  | 0, _, _ => none
  | _ + 1, _, [] => none
  | _ + 1, acc, '"' :: rest => some (String.ofList acc.reverse, rest)
  | fuel + 1, acc, '\\' :: rest => do
    let (c, rest) ← readEscape rest
    readBasic fuel (c :: acc) rest
  | fuel + 1, acc, c :: rest => if isControl c then none else readBasic fuel (c :: acc) rest

def readLiteral (cs : List Char) : Option (String × List Char) :=
  let body := cs.takeWhile (· != '\'')
  match cs.dropWhile (· != '\'') with
  | [] => none
  | _ :: rest => if body.any isControl then none else some (String.ofList body, rest)

/-- Skips the blanks and line ends after a backslash at the end of a line. -/
def skipContinuation (cs : List Char) : Option (List Char) :=
  match newline? (skipBlanks cs) with
  | none => none
  | some rest => some (rest.dropWhile fun c => c == ' ' || c == '\t' || c == '\n' || c == '\r')

/-- A string of several lines, from after its opening quotes. Up to two quotes may stand before
the three that close it. -/
def readMulti (quote : Char) (escapes : Bool) :
    Nat → List Char → List Char → Option (String × List Char)
  | 0, _, _ => none
  | _ + 1, _, [] => none
  | fuel + 1, acc, c :: rest =>
    if c == quote then
      let run := 1 + (rest.takeWhile (· == quote)).length
      if run < 3 then readMulti quote escapes fuel (c :: acc) rest
      else if run > 5 then none
      else some (String.ofList (List.replicate (run - 3) quote ++ acc).reverse, rest.drop (run - 1))
    else if c == '\\' && escapes then
      match skipContinuation rest with
      | some rest => readMulti quote escapes fuel acc rest
      | none => do
        let (e, rest) ← readEscape rest
        readMulti quote escapes fuel (e :: acc) rest
    else if c == '\n' then readMulti quote escapes fuel (c :: acc) rest
    else if c == '\r' then
      match rest with
      | '\n' :: rest => readMulti quote escapes fuel ('\n' :: '\r' :: acc) rest
      | _ => none
    else if isControl c then none
    else readMulti quote escapes fuel (c :: acc) rest

def dropFirstNewline (cs : List Char) : List Char :=
  (newline? cs).getD cs

def readString (cs : List Char) : Option (String × List Char) :=
  match cs with
  | '"' :: '"' :: '"' :: rest => readMulti '"' true (rest.length + 1) [] (dropFirstNewline rest)
  | '\'' :: '\'' :: '\'' :: rest => readMulti '\'' false (rest.length + 1) [] (dropFirstNewline rest)
  | '"' :: rest => readBasic (rest.length + 1) [] rest
  | '\'' :: rest => readLiteral rest
  | _ => none

def isBareKey (c : Char) : Bool :=
  c.isAlphanum || c == '_' || c == '-'

/-- One part of a key; quoted parts are one-line strings. -/
def readSimpleKey (cs : List Char) : Option (String × List Char) :=
  match cs with
  | '"' :: rest => readBasic (rest.length + 1) [] rest
  | '\'' :: rest => readLiteral rest
  | _ =>
    let key := cs.takeWhile isBareKey
    if key.isEmpty then none else some (String.ofList key, cs.dropWhile isBareKey)

/-- How deep arrays and inline tables may nest, and how many parts a key may have. -/
def depthLimit : Nat := 80

def readParts : (limit : Nat) → List Char → Option (List String × List Char)
  | 0, _ => none
  | limit + 1, cs => do
    let (part, rest) ← readSimpleKey (skipBlanks cs)
    match skipBlanks rest with
    | '.' :: rest =>
      let (parts, rest) ← readParts limit rest
      some (part :: parts, rest)
    | rest => some ([part], rest)

def readKey (cs : List Char) : Option (List String × List Char) :=
  readParts depthLimit cs

def cleanDigits? (isDigit : Char → Bool) (cs : List Char) : Option (List Char) :=
  let parts := cs.splitOn '_'
  if parts.all (fun p => !p.isEmpty && p.all isDigit) then some parts.flatten else none

def baseDigits? (base : Nat) (cs : List Char) : Option Nat := do
  let digits ← cleanDigits? (fun c => (hexDigit? c).any (· < base)) cs
  digits.foldlM (fun n c => (hexDigit? c).map (base * n + ·)) 0

def isDecimal (c : Char) : Bool :=
  '0' ≤ c && c ≤ '9'

def decimal? (cs : List Char) : Option Nat := do
  let digits ← cleanDigits? isDecimal cs
  if digits.length > 1 && digits.head? == some '0' then none
  else some (digits.foldl (fun n d => 10 * n + (d.toNat - 48)) 0)

def float? (body : List Char) : Bool :=
  let mantissa := body.takeWhile fun c => c != 'e' && c != 'E'
  let power := body.dropWhile fun c => c != 'e' && c != 'E'
  let powerOk := match power with
    | [] => true
    | _ :: '+' :: ds => (cleanDigits? isDecimal ds).isSome
    | _ :: '-' :: ds => (cleanDigits? isDecimal ds).isSome
    | _ :: ds => (cleanDigits? isDecimal ds).isSome
  let whole := mantissa.takeWhile (· != '.')
  let mantissaOk := match mantissa.dropWhile (· != '.') with
    | [] => !power.isEmpty
    | _ :: ds => (cleanDigits? isDecimal ds).isSome
  (decimal? whole).isSome && mantissaOk && powerOk && !isHuge
where
  /-- Whether the number is beyond all that 64 bits hold. -/
  isHuge : Bool :=
    match Binary64.Reading.decimal? false (body.filter (· != '_')) with
    | some (.finite _) => false
    | _ => true

def numberOf? (cs : List Char) : Option Value :=
  let (negative, signed, body) := match cs with
    | '-' :: r => (true, true, r)
    | '+' :: r => (false, true, r)
    | r => (false, false, r)
  let based := match body with
    | '0' :: 'x' :: r => if signed then none else baseDigits? 16 r
    | '0' :: 'o' :: r => if signed then none else baseDigits? 8 r
    | '0' :: 'b' :: r => if signed then none else baseDigits? 2 r
    | r => decimal? r
  match based with
  | some n =>
    if negative then
      if n ≤ Nat.pow 2 63 then some (.integer (-n)) else none
    else if n < Nat.pow 2 63 then some (.integer n) else none
  | none =>
    if float? body || body == "inf".toList || body == "nan".toList then
      some (.float (String.ofList cs))
    else none

def isScalarChar (c : Char) : Bool :=
  c.isAlphanum || c == '_' || c == '+' || c == '-' || c == '.'

def readScalar (cs : List Char) : Option (Value × List Char) := do
  if looksLikeMoment cs then
    let rest ← afterMoment? cs
    return (.moment (String.ofList (cs.take (cs.length - rest.length))), rest)
  let text := cs.takeWhile isScalarChar
  let rest := cs.dropWhile isScalarChar
  if text == "true".toList then some (.boolean true, rest)
  else if text == "false".toList then some (.boolean false, rest)
  else some (← numberOf? text, rest)

mutual

def readValue : (fuel depth : Nat) → List Char → Option (Value × List Char)
  | 0, _, _ => none
  | fuel + 1, depth, cs =>
    match cs with
    | '"' :: _ => (readString cs).map fun (s, r) => (.string s, r)
    | '\'' :: _ => (readString cs).map fun (s, r) => (.string s, r)
    | '[' :: rest => if depth = 0 then none else readItems fuel (depth - 1) [] rest
    | '\x7b' :: rest => if depth = 0 then none else readInline fuel (depth - 1) [] rest
    | _ => readScalar cs

def readItems : (fuel depth : Nat) → List Value → List Char → Option (Value × List Char)
  | 0, _, _, _ => none
  | fuel + 1, depth, acc, cs => do
    match ← skipLayout (cs.length + 1) cs with
    | ']' :: rest => some (.array acc.reverse, rest)
    | cs =>
      let (v, rest) ← readValue fuel depth cs
      match ← skipLayout (rest.length + 1) rest with
      | ',' :: rest => readItems fuel depth (v :: acc) rest
      | ']' :: rest => some (.array (v :: acc).reverse, rest)
      | _ => none

def readInline : (fuel depth : Nat) → Entries → List Char → Option (Value × List Char)
  | 0, _, _, _ => none
  | fuel + 1, depth, entries, cs => do
    match ← skipLayout (cs.length + 1) cs with
    | '\x7d' :: rest => some (.table (entriesToTable entries), rest)
    | cs =>
      let (key, rest) ← readKey cs
      match rest with
      | '=' :: rest =>
        let (v, rest) ← readValue fuel depth (skipBlanks rest)
        let entries ← addDotted v key entries
        match ← skipLayout (rest.length + 1) rest with
        | ',' :: rest => readInline fuel depth entries rest
        | '\x7d' :: rest => some (.table (entriesToTable entries), rest)
        | _ => none
      | _ => none

end

def readLines : Nat → List String → Entries → List Char → Option Entries
  | 0, _, _, _ => none
  | fuel + 1, current, entries, cs => do
    match ← skipLayout (cs.length + 1) cs with
    | [] => some entries
    | '[' :: '[' :: rest =>
      let (path, rest) ← readKey rest
      match rest with
      | ']' :: ']' :: rest =>
        let entries ← openItem path entries
        readLines fuel path entries (← endLine rest)
      | _ => none
    | '[' :: rest =>
      let (path, rest) ← readKey rest
      match rest with
      | ']' :: rest =>
        let entries ← openTable path entries
        readLines fuel path entries (← endLine rest)
      | _ => none
    | cs =>
      let (key, rest) ← readKey cs
      match rest with
      | '=' :: rest =>
        let rest := skipBlanks rest
        let (v, rest) ← readValue (2 * rest.length + 2) depthLimit rest
        let entries ← within (addDotted v key) current entries
        readLines fuel current entries (← endLine rest)
      | _ => none

def parse (text : String) : Option Table := do
  let cs := match text.toList with
    | c :: rest => if c.toNat == 0xFEFF then rest else c :: rest
    | [] => []
  let entries ← readLines (cs.length + 1) [] [] cs
  some (entriesToTable entries)

end SchemaForge.Toml
