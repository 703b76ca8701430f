import SchemaForge.Pattern.Syntax
import SchemaForge.Text.Property

/-! Reading a pattern: literals, `.`, classes with nesting and set operations, properties of
characters, groups, flags, alternation, repetition with counts, anchors and word edges.
Back-references and look-around are refused. The recursion is bounded by the length of the text. -/

namespace SchemaForge.Pattern

inductive ParseError where
  | groupUnclosed
  | groupUnopened
  | groupName
  | groupRepeated
  | lookAround
  | flags
  | repetitionMissing
  | repetitionCount
  | classUnclosed
  | classRange
  | escape
  /-- No property or value of one has such a name. -/
  | property
  /-- Without the letters of all scripts, what is left need not be text. -/
  | notText
  | tooDeep
  | tooLarge
deriving Repr, DecidableEq

inductive Escape where
  | char (c : Char)
  | cls (c : CharClass) (ranges : Nat) (negated : Bool)
  | look (l : Look)

def isMeta (c : Char) : Bool :=
  "\\.+*?()|[]\x7b\x7d^$#&-~".toList.contains c

def isEscapable (c : Char) : Bool :=
  isMeta c || (c.toNat < 128 && !c.isAlphanum && c != '<' && c != '>')

def hexValue? (c : Char) : Option Nat :=
  if '0' ≤ c && c ≤ '9' then some (c.toNat - 48)
  else if 'a' ≤ c && c ≤ 'f' then some (c.toNat - 87)
  else if 'A' ≤ c && c ≤ 'F' then some (c.toNat - 55)
  else none

def hexNumber? (cs : List Char) : Option Nat :=
  if cs.isEmpty then none
  else cs.foldlM (fun n c => (hexValue? c).map (16 * n + ·)) 0

def charOfCode? (n : Nat) : Option Char :=
  if n < 0xD800 || (0xDFFF < n && n < 0x110000) then some (Char.ofNat n) else none

def hexEscape (digits : Nat) (cs : List Char) : Except ParseError (Escape × List Char) :=
  match cs with
  | '\x7b' :: rest =>
    let body := rest.takeWhile (· != '\x7d')
    match rest.dropWhile (· != '\x7d'), (hexNumber? body).bind charOfCode? with
    | _ :: after, some c => .ok (.char c, after)
    | _, _ => .error .escape
  | _ =>
    if cs.length < digits then .error .escape
    else match (hexNumber? (cs.take digits)).bind charOfCode? with
      | some c => .ok (.char c, cs.drop digits)
      | none => .error .escape

def edgeEscape (cs : List Char) : Except ParseError (Escape × List Char) :=
  match cs with
  | '\x7b' :: rest =>
    let isNamed (c : Char) : Bool := c.isAlpha || c == '-'
    if rest.head?.any isNamed then
      match String.ofList (rest.takeWhile isNamed), rest.dropWhile isNamed with
      | "start", '\x7d' :: after => .ok (.look .wordStart, after)
      | "end", '\x7d' :: after => .ok (.look .wordEnd, after)
      | "start-half", '\x7d' :: after => .ok (.look .beforeWord, after)
      | "end-half", '\x7d' :: after => .ok (.look .afterWord, after)
      | _, _ => .error .escape
    else if rest.isEmpty then .error .escape
    else .ok (.look .wordEdge, cs)
  | _ => .ok (.look .wordEdge, cs)

def lettered (flags : Flags) (cls : CharClass) (ascii : String) (count : Nat) (negated : Bool) :
    Escape :=
  let (cls, count) :=
    if flags.unicode then (cls, count)
    else
      let ranges := (CharClass.named? ascii).getD []
      (.ofRanges ranges, ranges.length)
  .cls (if negated then .compl cls else cls) count negated

def skipVerbose (flags : Flags) : (fuel : Nat) → List Char → List Char
  | 0, cs => cs
  | fuel + 1, cs =>
    if flags.verbose then
      match cs with
      | '#' :: rest => skipVerbose flags fuel (rest.dropWhile (· != '\n'))
      | c :: rest => if Text.isBlank c then skipVerbose flags fuel rest else cs
      | [] => []
    else cs

def skipped (flags : Flags) (cs : List Char) : List Char :=
  skipVerbose flags (cs.length + 1) cs

def readBraced (flags : Flags) : (fuel : Nat) → List Char → Except ParseError (List Char × List Char)
  | 0, _ => .error .escape
  | fuel + 1, cs =>
    match skipped flags cs with
    | [] => .error .escape
    | '\x7d' :: rest => .ok ([], rest)
    | c :: rest => do
      let (body, rest) ← readBraced flags fuel rest
      .ok (c :: body, rest)

/-- A text before and after the first place where a mark stands in it. -/
def cutAt? (mark : List Char) : List Char → Option (List Char × List Char)
  | [] => none
  | c :: rest =>
    if mark.isPrefixOf (c :: rest) then some ([], (c :: rest).drop mark.length)
    else (cutAt? mark rest).map fun (before, after) => (c :: before, after)

def namedProperty? (text : List Char) : Option (Text.Ranges × Bool) :=
  let valued (parts : List Char × List Char) (negated : Bool) : Option (Text.Ranges × Bool) :=
    (Text.Property.ofValue? (String.ofList parts.1) (String.ofList parts.2)).map (·, negated)
  match cutAt? ['!', '='] text, cutAt? [':'] text, cutAt? ['='] text with
  | some parts, _, _ => valued parts true
  | none, some parts, _ => valued parts false
  | none, none, some parts => valued parts false
  | none, none, none => (Text.Property.ofName? (String.ofList text)).map (·, false)

def readProperty (flags : Flags) (negated : Bool) (cs : List Char) :
    Except ParseError (Escape × List Char) := do
  let (text, rest) ← match skipped flags cs with
    | [] => .error .escape
    | '\x7b' :: rest => readBraced flags (rest.length + 1) rest
    | '\\' :: _ => .error .escape
    | c :: rest => .ok ([c], rest)
  if !flags.unicode then .error .notText
  else match namedProperty? text with
    | none => .error .property
    | some (codes, others) =>
      let set := flags.folded (.listed codes)
      let outside := negated != others
      .ok (.cls (if outside then .compl set else set) codes.length outside, rest)

def readEscape (flags : Flags) : List Char → Except ParseError (Escape × List Char)
  | [] => .error .escape
  | 'x' :: rest => hexEscape 2 rest
  | 'u' :: rest => hexEscape 4 rest
  | 'U' :: rest => hexEscape 8 rest
  | 'b' :: rest => edgeEscape rest
  | 'p' :: rest => readProperty flags false rest
  | 'P' :: rest => readProperty flags true rest
  | c :: rest =>
    let found : Option Escape := match c with
      | 'd' => some (lettered flags .digit "digit" 71 false)
      | 'D' => some (lettered flags .digit "digit" 71 true)
      | 's' => some (lettered flags .space "space" 10 false)
      | 'S' => some (lettered flags .space "space" 10 true)
      | 'w' => some (lettered flags .word "word" 796 false)
      | 'W' => some (lettered flags .word "word" 796 true)
      | 'a' => some (.char '\x07')
      | 'f' => some (.char '\x0c')
      | 't' => some (.char '\t')
      | 'n' => some (.char '\n')
      | 'r' => some (.char '\r')
      | 'v' => some (.char '\x0b')
      | 'A' => some (.look .textStart)
      | 'z' => some (.look .textEnd)
      | 'B' => some (.look .wordInside)
      | '<' => some (.look .wordStart)
      | '>' => some (.look .wordEnd)
      | c => if isEscapable c then some (.char c) else none
    match found with
    | some e => .ok (e, rest)
    | none => .error .escape

section Classes

def readClassItem (flags : Flags) : List Char → Except ParseError (Escape × List Char)
  | [] => .error .classUnclosed
  | '\\' :: rest => readEscape flags rest
  | c :: rest => .ok (.char c, rest)

def Escape.inClass : Escape → Except ParseError ClassSyntax
  | char c => .ok (.range c c)
  | cls c ranges _ => .ok (.lettered c ranges)
  | look _ => .error .escape

def readClassRange (flags : Flags) (cs : List Char) :
    Except ParseError (ClassSyntax × List Char) := do
  let (first, rest) ← readClassItem flags cs
  let rest := skipped flags rest
  match rest with
  | [] => .error .classUnclosed
  | '-' :: after =>
    let after := skipped flags after
    if after.head? == some ']' || after.head? == some '-' then .ok (← first.inClass, rest)
    else
      let (second, rest) ← readClassItem flags after
      match first, second with
      | .char low, .char high =>
        if low ≤ high then .ok (.range low high, rest) else .error .classRange
      | _, _ => .error .classRange
  | _ => .ok (← first.inClass, rest)

def readNamedClass? (cs : List Char) : Option (ClassSyntax × List Char) :=
  match cs with
  | '[' :: ':' :: rest =>
    let (negated, rest) := match rest with
      | '^' :: r => (true, r)
      | r => (false, r)
    let name := rest.takeWhile (· != ':')
    match rest.dropWhile (· != ':'), CharClass.named? (String.ofList name) with
    | ':' :: ']' :: after, some ranges => some (.named ranges negated, after)
    | _, _ => none
  | _ => none

/-- The left side of a set operation that is still open. -/
abbrev OpenOp := Option (SetOp × ClassSyntax)

def closeOp (left : OpenOp) (items : List ClassSyntax) : ClassSyntax :=
  let right := ClassSyntax.ofItems items.reverse
  match left with
  | none => right
  | some (kind, left) => .op kind left right

/-- The opening of a class: a caret negates it, hyphens and then one closing bracket that come
first are literal. -/
def readClassStart (flags : Flags) (cs : List Char) : Bool × List ClassSyntax × List Char :=
  let (negated, cs) := match skipped flags cs with
    | '^' :: r => (true, skipped flags r)
    | r => (false, r)
  let hyphens := cs.takeWhile (· == '-')
  let cs := skipped flags (cs.dropWhile (· == '-'))
  if hyphens.isEmpty then
    match cs with
    | ']' :: r => (negated, [.range ']' ']'], r)
    | r => (negated, [], r)
  else (negated, hyphens.map fun c => .range c c, cs)

mutual

def readClass (flags : Flags) : Nat → List Char → Except ParseError (ClassSyntax × List Char)
  | 0, _ => .error .tooDeep
  | fuel + 1, cs => do
    let (negated, items, rest) := readClassStart flags cs
    let (set, rest) ← readClassBody flags fuel none items rest
    .ok (.bracket negated set, rest)

def readClassBody (flags : Flags) :
    Nat → OpenOp → List ClassSyntax → List Char → Except ParseError (ClassSyntax × List Char)
  | 0, _, _, _ => .error .tooDeep
  | fuel + 1, left, items, cs =>
    match skipped flags cs with
    | [] => .error .classUnclosed
    | ']' :: rest => .ok (closeOp left items, rest)
    | '&' :: '&' :: rest => readClassBody flags fuel (some (.inter, closeOp left items)) [] rest
    | '-' :: '-' :: rest => readClassBody flags fuel (some (.diff, closeOp left items)) [] rest
    | '~' :: '~' :: rest => readClassBody flags fuel (some (.symm, closeOp left items)) [] rest
    | c :: rest =>
      if c == '[' then
        match readNamedClass? (c :: rest) with
        | some (item, after) => readClassBody flags fuel left (item :: items) after
        | none => do
          let (item, after) ← readClass flags fuel rest
          readClassBody flags fuel left (item :: items) after
      else do
        let (item, after) ← readClassRange flags (c :: rest)
        readClassBody flags fuel left (item :: items) after

end

end Classes

def readCount (cs : List Char) : Option Nat × List Char :=
  let cs := cs.dropWhile Text.isBlank
  let digits := cs.takeWhile Char.isDigit
  let rest := (cs.dropWhile Char.isDigit).dropWhile Text.isBlank
  let n := digits.foldl (fun n d => 10 * n + (d.toNat - 48)) 0
  (if digits.isEmpty || n ≥ Nat.pow 2 32 then none else some n, rest)

def readBounds (cs : List Char) : Except ParseError ((Nat × Option Nat) × List Char) :=
  match readCount cs with
  | (some least, ',' :: '\x7d' :: rest) => .ok ((least, none), rest)
  | (some least, '\x7d' :: rest) => .ok ((least, some least), rest)
  | (some least, ',' :: rest) =>
    match readCount rest with
    | (some most, '\x7d' :: rest) =>
      if least ≤ most then .ok ((least, some most), rest) else .error .repetitionCount
    | _ => .error .repetitionCount
  | _ => .error .repetitionCount

section Groups

/-- Flags up to the character that ends them, with whether a hyphen has been seen. -/
def readFlags (negated : Bool) (flags : Flags) (seen : List Char) :
    List Char → Except ParseError (Flags × List Char)
  | [] => .error .groupUnclosed
  | c :: rest =>
    if c == ')' || c == ':' then
      if negated && seen.head? == some '-' then .error .flags
      else if c == ')' && seen.isEmpty then .error .repetitionMissing
      else .ok (flags, c :: rest)
    else if seen.contains c then .error .flags
    else match c with
      | '-' => readFlags true flags (c :: seen) rest
      | 'i' => readFlags negated { flags with ignoreCase := !negated } (c :: seen) rest
      | 'm' => readFlags negated { flags with multiLine := !negated } (c :: seen) rest
      | 's' => readFlags negated { flags with dotAll := !negated } (c :: seen) rest
      | 'R' => readFlags negated { flags with anyLineEnd := !negated } (c :: seen) rest
      | 'x' => readFlags negated { flags with verbose := !negated } (c :: seen) rest
      | 'u' => readFlags negated { flags with unicode := !negated } (c :: seen) rest
      | 'U' => readFlags negated flags (c :: seen) rest
      | _ => .error .flags

def readGroupName (cs : List Char) : Except ParseError (List Char × List Char) :=
  let name := cs.takeWhile (· != '>')
  match name, cs.dropWhile (· != '>') with
  | first :: others, _ :: rest =>
    if (isWord first && !isDigit first)
        && others.all (fun c => isWord c || c == '.' || c == '[' || c == ']') then .ok (name, rest)
    else .error .groupName
  | _, _ => .error .groupName

inductive GroupStart where
  | body (captures : Bool) (name : Option (List Char)) (flags : Flags) (rest : List Char)
  | setFlags (flags : Flags) (rest : List Char)

def readGroupStart (flags : Flags) (cs : List Char) : Except ParseError GroupStart :=
  let named (rest : List Char) : Except ParseError GroupStart := do
    let (name, rest) ← readGroupName rest
    .ok (.body true (some name) flags rest)
  match skipped flags cs with
  | '?' :: '=' :: _ => .error .lookAround
  | '?' :: '!' :: _ => .error .lookAround
  | '?' :: '<' :: '=' :: _ => .error .lookAround
  | '?' :: '<' :: '!' :: _ => .error .lookAround
  | '?' :: 'P' :: '<' :: rest => named rest
  | '?' :: '<' :: rest => named rest
  | '?' :: rest => do
    match ← readFlags false flags [] rest with
    | (flags, ')' :: rest) => .ok (.setFlags flags rest)
    | (flags, rest) => .ok (.body false none flags (rest.drop 1))
  | rest => .ok (.body true none flags rest)

end Groups

section Leaves

def byteCount (c : Char) : Nat :=
  if c.toNat < 0x80 then 1 else if c.toNat < 0x800 then 2 else if c.toNat < 0x10000 then 3 else 4

def literal (flags : Flags) (c : Char) : Syntax :=
  let size := if flags.ignoreCase then 80 else Syntax.stateSize * byteCount c
  .leaf (.one (flags.folded (.single c))) size

def lookAt (flags : Flags) (l : Look) : Syntax :=
  let letters := if flags.unicode then CharClass.word
    else .ofRanges ((CharClass.named? "word").getD [])
  .leaf (.look l letters) Syntax.stateSize

def dot (flags : Flags) : CharClass :=
  if flags.dotAll then .all
  else if flags.anyLineEnd then .compl (.ofRanges [('\n', '\n'), ('\r', '\r')])
  else .compl (.single '\n')

def escaped (flags : Flags) : Escape → Except ParseError Syntax
  | .char c =>
    if !flags.unicode && 127 < c.toNat && c.toNat < 256 then .error .notText
    else .ok (literal flags c)
  | .cls c ranges negated =>
    if negated && !flags.unicode then .error .notText
    else .ok (.leaf (.one c) (2 * Syntax.stateSize + 70 * ranges))
  | .look l => .ok (lookAt flags l)

/-- Whether a class of characters may stand in a pattern; without the letters of all scripts it
has to be one of ASCII characters. -/
def checkClass (flags : Flags) (set : ClassSyntax) : Except ParseError Syntax :=
  if flags.unicode || set.isPlain then .ok (.cls flags set) else .error .notText

end Leaves

structure Reading where
  flags : Flags
  done : List Syntax := []
  items : List Syntax := []
  names : List (List Char) := []

namespace Reading

def push (r : Reading) (item : Syntax) : Reading :=
  { r with items := item :: r.items }

def concat (r : Reading) : Syntax :=
  Syntax.ofItems r.items.reverse

def next (r : Reading) : Reading :=
  { r with done := r.concat :: r.done, items := [] }

def close (r : Reading) : Syntax :=
  Syntax.ofAlternatives (r.next.done.reverse)

def repeatLast (r : Reading) (least : Nat) (most : Option Nat) : Except ParseError Reading :=
  match r.items with
  | [] => .error .repetitionMissing
  | .setFlags :: _ => .error .repetitionMissing
  | item :: others => .ok { r with items := .repeated item least most :: others }

def addName (r : Reading) : Option (List Char) → Except ParseError Reading
  | none => .ok r
  | some name =>
    if r.names.contains name then .error .groupRepeated
    else .ok { r with names := name :: r.names }

end Reading

def skipLazy (flags : Flags) (cs : List Char) : List Char :=
  match skipped flags cs with
  | '?' :: rest => rest
  | rest => rest

def readAlternatives : Nat → Reading → List Char → Except ParseError (Reading × List Char)
  | 0, _, _ => .error .tooDeep
  | fuel + 1, r, cs =>
    match skipped r.flags cs with
    | [] => .ok (r, [])
    | c :: rest =>
      match c with
      | ')' => .ok (r, c :: rest)
      | '|' => readAlternatives fuel r.next rest
      | '(' => do
        match ← readGroupStart r.flags rest with
        | .setFlags flags rest => readAlternatives fuel { r.push .setFlags with flags } rest
        | .body captures name flags rest =>
          let r ← r.addName name
          match ← readAlternatives fuel { flags, names := r.names } rest with
          | (inner, ')' :: rest) =>
            let r := { r with names := inner.names }
            readAlternatives fuel (r.push (.group captures inner.close)) rest
          | _ => .error .groupUnclosed
      | '[' => do
        let (set, rest) ← readClass r.flags (rest.length + 1) rest
        readAlternatives fuel (r.push (← checkClass r.flags set)) rest
      | '?' => do readAlternatives fuel (← r.repeatLast 0 (some 1)) (skipLazy r.flags rest)
      | '*' => do readAlternatives fuel (← r.repeatLast 0 none) (skipLazy r.flags rest)
      | '+' => do readAlternatives fuel (← r.repeatLast 1 none) (skipLazy r.flags rest)
      | '\x7b' => do
        if r.items.isEmpty then .error .repetitionMissing
        else
          let ((least, most), rest) ← readBounds rest
          readAlternatives fuel (← r.repeatLast least most) (skipLazy r.flags rest)
      | '.' =>
        if !r.flags.unicode then .error .notText
        else readAlternatives fuel (r.push (.leaf (.one (dot r.flags)) 430)) rest
      | '^' =>
        let l := if !r.flags.multiLine then Look.textStart
          else if r.flags.anyLineEnd then .anyLineStart else .lineStart
        readAlternatives fuel (r.push (lookAt r.flags l)) rest
      | '$' =>
        let l := if !r.flags.multiLine then Look.textEnd
          else if r.flags.anyLineEnd then .anyLineEnd else .lineEnd
        readAlternatives fuel (r.push (lookAt r.flags l)) rest
      | '\\' => do
        let (e, rest) ← readEscape r.flags rest
        readAlternatives fuel (r.push (← escaped r.flags e)) rest
      | c => readAlternatives fuel (r.push (literal r.flags c)) rest

def nestingLimit : Nat := 250

def sizeLimit : Nat := 10485760

def readSyntax (text : String) : Except ParseError Syntax := do
  let cs := text.toList
  match ← readAlternatives (cs.length + 1) { flags := {} } cs with
  | (r, []) => if nestingLimit < r.close.nesting then .error .tooDeep else .ok r.close
  | _ => .error .groupUnopened

def parse (text : String) : Except ParseError Pattern := do
  let s ← readSyntax text
  if sizeLimit < s.size then .error .tooLarge else .ok s.toPattern

end SchemaForge.Pattern
