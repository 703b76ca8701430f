import SchemaForge.Template.Literal

/-! What stands inside a tag: paths, operands and helper calls. Alternatives are tried in order; the
first that fits is kept even if what follows does not. -/

namespace SchemaForge.Template

section Paths

def isSeparator (c : Char) : Bool :=
  c == '.' || c == '/'

/-- A name in a path; in brackets it may hold anything. -/
def pathName (cs : List Char) : Except Halt (String × List Char) :=
  match cs with
  | '[' :: rest =>
    match rest.dropWhile (· != ']') with
    | [] => .error .mismatch
    | _ :: after => .ok (String.ofList (rest.takeWhile (· != ']')), after)
  | _ => identifier cs

def moreNames : (fuel : Nat) → List Char → List String × List Char
  | 0, cs => ([], cs)
  | _ + 1, [] => ([], [])
  | fuel + 1, c :: cs =>
    if isSeparator c then
      match pathName cs with
      | .ok (name, rest) =>
        let (names, rest) := moreNames fuel rest
        (name :: names, rest)
      | .error _ => ([], c :: cs)
    else ([], c :: cs)

def skipStep (word cs : List Char) : Option (List Char) :=
  if word.isPrefixOf cs && (cs[word.length]?).any isSeparator then
    some (cs.drop (word.length + 1))
  else none

def skipUps : (fuel : Nat) → List Char → Nat × List Char
  | 0, cs => (0, cs)
  | fuel + 1, cs =>
    match skipStep ['.', '.'] cs with
    | some rest =>
      let (ups, rest) := skipUps fuel rest
      (ups + 1, rest)
    | none => (0, cs)

def skipCurrent (cs : List Char) : List Char :=
  match skipStep "this".toList cs, cs with
  | some rest, _ => rest
  | none, '.' :: '/' :: rest => rest
  | none, _ => cs

/-- Where a path starts, by its marks and its names. A mark without a name is the current value. -/
def originOf (fromRoot isAbout : Bool) (ups : Nat) (names : List String) : Origin :=
  if fromRoot then .root
  else if isAbout then (if names.isEmpty then .here 0 else .about ups)
  else .here ups

def path (cs : List Char) : Except Halt (ValuePath × List Char) := do
  let body := skipCurrent cs
  let (fromRoot, body) := match skipStep "@root".toList body with
    | some rest => (true, rest)
    | none => (false, body)
  let (isAbout, body) := match body with
    | '@' :: rest => (true, rest)
    | _ => (false, body)
  let (ups, body) := skipUps body.length body
  let (first, body) ← pathName body
  let (more, rest) := moreNames body.length body
  let names := (first :: more).filter (· ≠ "this")
  .ok (⟨String.ofList (span cs rest), originOf fromRoot isAbout ups names, names⟩, rest)

end Paths

abbrev Operands := List Operand × List (String × Operand)

/-- Adds an operand before others; of a repeated name the last counts. -/
def addOperand (name : Option String) (value : Operand) : Operands → Operands
  | (args, named) =>
    match name with
    | none => (value :: args, named)
    | some name =>
      if named.any (·.1 == name) then (args, named) else (args, (name, value) :: named)

mutual

def operand : (fuel : Nat) → List Char → Except Halt (Operand × List Char)
  | 0, _ => .error .mismatch
  | fuel + 1, cs =>
    if reservedAt cs then .error .mismatch
    else orElse (literal cs)
      (orElse ((path cs).map fun (p, rest) => (.path p, rest)) (inner fuel cs))

def inner : (fuel : Nat) → List Char → Except Halt (Operand × List Char)
  | 0, _ => .error .mismatch
  | fuel + 1, cs => do
    let body := skipSpace (← expect ['('] cs)
    let (call, rest) ← orElse
      (do
        let (helper, rest) ← identifier body
        let ((args, named), rest) ← operands fuel rest
        if args.isEmpty && named.isEmpty then .error .mismatch
        else .ok (Operand.call helper args named, rest))
      ((path body).map fun (p, rest) => (.call p.raw [] [], rest))
    .ok (call, ← expect [')'] (skipSpace rest))

def operands : (fuel : Nat) → List Char → Except Halt (Operands × List Char)
  | 0, cs => .ok (([], []), cs)
  | fuel + 1, cs =>
    let body := skipSpace cs
    let one : Except Halt ((Option String × Operand) × List Char) := orElse
      (do
        let (name, rest) ← identifier body
        let rest ← expect ['='] (skipSpace rest)
        let (value, rest) ← operand fuel (skipSpace rest)
        .ok ((some name, value), rest))
      ((operand fuel body).map fun (value, rest) => ((none, value), rest))
    match one with
    | .error .mismatch => .ok (([], []), cs)
    | .error .malformed => .error .malformed
    | .ok ((name, value), rest) => do
      let (more, rest) ← operands fuel rest
      .ok (addOperand name value more, rest)

end

def operandsOf (cs : List Char) : Except Halt (Operands × List Char) :=
  operands (3 * cs.length + 3) cs

def name (cs : List Char) : Except Halt (Operand × List Char) :=
  orElse (inner (3 * cs.length + 3) cs) ((path cs).map fun (p, rest) => (.path p, rest))

def single (cs : List Char) : Except Halt (Node × List Char) :=
  (name cs).map fun (o, rest) => (.value o, rest)

def expression (cs : List Char) : Except Halt (Node × List Char) :=
  orElse
    (do
      let (helper, rest) ← identifier cs
      let ((args, named), rest) ← operandsOf rest
      if args.isEmpty && named.isEmpty then .error .mismatch
      else .ok (.call ⟨helper, args, named⟩, rest))
    (single cs)

/-- The names that a block gives to what it passes on: one or two between bars. -/
def blockParams (cs : List Char) : Except Halt ((List String) × List Char) := do
  let rest ← expect "as".toList (skipSpace cs)
  let rest ← expect ['|'] (skipSpace rest)
  let (first, rest) ← identifier (skipSpace rest)
  let (names, rest) := match identifier (skipSpace rest) with
    | .ok (second, rest) => ([first, second], rest)
    | .error _ => ([first], rest)
  .ok (names, ← expect ['|'] (skipSpace rest))

def blockHead (cs : List Char) : Except Halt ((Call × List String) × List Char) := do
  let (helper, rest) ← identifier (skipSpace cs)
  let ((args, named), rest) ← operandsOf rest
  let (params, rest) := match blockParams rest with
    | .ok (params, rest) => (params, rest)
    | .error _ => ([], rest)
  .ok ((⟨helper, args, named⟩, params), rest)

section Parts

def isPartSymbol (c : Char) : Bool :=
  c.isAlphanum || c == '_' || c == '-' || c == '/' || c == '.' || 0x80 ≤ c.toNat

/-- The name of a part: a file name, or any text in single quotes. -/
def partWord (cs : List Char) : Except Halt (String × List Char) :=
  match cs with
  | '\x27' :: rest =>
    match afterEscaped rest with
    | some after => if after.length + 1 = rest.length then .error .mismatch
      else .ok (String.ofList (span rest after).dropLast, after)
    | none => .error .mismatch
  | _ =>
    match cs.takeWhile isPartSymbol with
    | [] => .error .mismatch
    | word => .ok (String.ofList word, cs.dropWhile isPartSymbol)
where
  afterEscaped : List Char → Option (List Char)
    | [] => none
    | '\\' :: '\x27' :: rest => afterEscaped rest
    | c :: rest => if c == '\x27' then some rest else afterEscaped rest

def partHead (cs : List Char) : Except Halt (PartCall × List Char) := do
  let cs := skipSpace cs
  let (name, rest) ← orElse ((partWord cs).map fun (w, rest) => (.literal (.str w), rest)) (name cs)
  let ((args, named), rest) ← operandsOf rest
  .ok ({ name, args, named }, rest)

end Parts

end SchemaForge.Template
