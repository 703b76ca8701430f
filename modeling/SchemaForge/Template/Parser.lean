import SchemaForge.Template.Tag
import SchemaForge.Text.Blank

/-! From template text to its tree: the text is cut into text and tags, space around tags is left
out where tildes or tags alone on their lines ask for it, and blocks are nested. -/

namespace SchemaForge.Template

structure Placed where
  marked : Marked
  /-- Only blanks stand before it on its line. -/
  opensLine : Bool
  /-- Only blanks stand after it on its line, or it ends the template. -/
  endsLine : Bool
  /-- The blanks right before it. -/
  blanks : List Char
deriving Repr, Inhabited

inductive Token where
  | text (chars : List Char)
  | tag (placed : Placed)
deriving Repr, Inhabited

section Cutting

/-- Text up to `stop`. A backslash before braces makes them text; of several only one is dropped,
and the braces keep their meaning. -/
def cutText (stop : List Char) : List Char → List Char × List Char
  | [] => ([], [])
  | c :: rest =>
    if stop.isPrefixOf (c :: rest) then ([], c :: rest)
    else if c == '\\' && opening.isPrefixOf rest then
      let braces := if wideOpening.isPrefixOf rest then wideOpening else opening
      let (text, after) := cutText stop (rest.drop braces.length)
      (braces ++ text, after)
    else if c == '\\' && rest.head? = some '\\'
        && opening.isPrefixOf (rest.dropWhile (· == '\\')) then
      let (text, after) := cutText stop (rest.dropWhile (· == '\\'))
      (rest.takeWhile (· == '\\') ++ text, after)
    else
      let (text, after) := cutText stop rest
      (c :: text, after)
termination_by cs => cs.length
decreasing_by
  · simp only [List.length_drop, List.length_cons]
    omega
  · have := (List.dropWhile_sublist (l := rest) (· == '\\')).length_le
    simp only [List.length_cons]
    omega
  · simp only [List.length_cons]
    omega

def isIndent (c : Char) : Bool :=
  c == ' ' || c == '\t'

def isBreak (c : Char) : Bool :=
  c == '\n' || c == '\r'

structure LineStart where
  /-- Whether it holds only blanks. -/
  isOpen : Bool := true
  /-- The blanks at its end. -/
  blanks : List Char := []
deriving Repr, DecidableEq

def LineStart.after (s : LineStart) (cs : List Char) : LineStart where
  isOpen := cs.foldl (fun b c => isBreak c || (b && isIndent c)) s.isOpen
  blanks := cs.foldl (fun bs c => if isIndent c then bs ++ [c] else []) s.blanks

def lineEnds (cs : List Char) : Bool :=
  cs.isEmpty || (cs.dropWhile isIndent).head?.any isBreak

def place (line : LineStart) (marked : Marked) (rest : List Char) : Token :=
  .tag ⟨marked, line.isOpen, lineEnds rest, line.blanks⟩

/-- A block whose body is text, from after its opening braces; space at the start of the body is
left out. -/
def verbatim (line : LineStart) (cs : List Char) : Except Halt (List Token × List Char) := do
  let (first, body) ← wideStart cs
  let (text, wide) := cutText wideOpening (skipSpace body)
  let line' := line.after (wideOpening ++ span cs wide)
  let (last, rest) ← wideStop (wide.drop wideOpening.length)
  .ok ([place line first body, .text text, place line' last rest], rest)

def tagTokens (line : LineStart) (cs : List Char) : Except Halt (List Token × List Char) :=
  if wideOpening.isPrefixOf cs then verbatim line (cs.drop wideOpening.length)
  else (tag (cs.drop opening.length)).map fun (marked, rest) => ([place line marked rest], rest)

def tokensFrom : (fuel : Nat) → LineStart → List Char → Option (List Token)
  | 0, _, _ => none
  | _ + 1, _, [] => some []
  | fuel + 1, line, cs =>
    match cutText opening cs with
    | ([], tagged) =>
      match tagTokens line tagged with
      | .ok (ts, rest) => (tokensFrom fuel (line.after (span cs rest)) rest).map (ts ++ ·)
      | .error _ => none
    | (text, rest) => (tokensFrom fuel (line.after (span cs rest)) rest).map (.text text :: ·)

def tokens (cs : List Char) : Option (List Token) :=
  tokensFrom (cs.length + 1) {} cs

end Cutting

section Spacing

/-- Text or a tag; `ownLine` tells whether a tag leaves no trace of its line, and `indent` what
stood before it there. -/
inductive Piece where
  | text (chars : List Char)
  | tag (tag : Tag) (ownLine : Bool) (indent : List Char)
deriving Repr, Inhabited

/-- What the tags before say about the text that comes next. -/
structure Spacing where
  /-- Space at its start is left out. -/
  tight : Bool := false
  /-- The rest of the line it starts in is left out, if that is blank. -/
  ownLine : Bool := false
deriving Repr, DecidableEq

def dropLineEnd (cs : List Char) : List Char :=
  match cs.dropWhile isIndent with
  | '\r' :: '\n' :: rest => rest
  | '\n' :: rest => rest
  | rest => rest

/-- Changes the last piece if it is text; pieces stand in reverse. -/
def onLastText (f : List Char → List Char) : List Piece → List Piece
  | .text cs :: rest => .text (f cs) :: rest
  | pieces => pieces

def trimIndent (cs : List Char) : List Char :=
  (cs.reverse.dropWhile isIndent).reverse

namespace Placed

/-- Whether a tag stands on a line of its own, which then leaves no trace; values never do. -/
def ownsLine (p : Placed) : Bool :=
  match p.marked.tag with
  | .value _ => false
  | _ => p.opensLine && p.endsLine

def piece (p : Placed) : Piece :=
  let keepsBlanks := !p.marked.lead
  .tag p.marked.tag (p.ownsLine && keepsBlanks) (if keepsBlanks then p.blanks else [])

def shapeBefore (p : Placed) (pieces : List Piece) : List Piece :=
  let pieces := if p.marked.lead then onLastText Text.trimEnd pieces else pieces
  if p.ownsLine then onLastText trimIndent pieces else pieces

end Placed

def Spacing.after (s : Spacing) (p : Placed) : Spacing where
  tight := match p.marked.tag with
    | .comment => s.tight
    | _ => p.marked.trail
  ownLine := match p.marked.tag with
    | .value _ => s.ownLine
    | _ => p.ownsLine

def Spacing.shape (s : Spacing) (cs : List Char) : List Char :=
  if s.tight then Text.trimStart cs else if s.ownLine then dropLineEnd cs else cs

/-- Applies the rules of spacing; `done` holds the pieces so far in reverse. -/
def spaced (s : Spacing) (done : List Piece) : List Token → List Piece
  | [] => done.reverse
  | .text cs :: rest =>
    if s.tight && cs.all isSpace then spaced s done rest
    else spaced { s with ownLine := false } (.text (s.shape cs) :: done) rest
  | .tag p :: rest => spaced (s.after p) (p.piece :: p.shapeBefore done) rest

end Spacing

section Nesting

inductive Opened where
  | helper (call : Call) (params : List String) (ownLine : Bool)
  /-- It began inside an inverse and ends with the block around it. -/
  | chained (call : Call) (params : List String) (ownLine : Bool)
  | part (call : PartCall)
  | directive (call : Call)
deriving Repr, Inhabited

/-- A block whose end has not been read; nodes stand in reverse. -/
structure OpenBlock where
  opened : Opened
  body : List Node := []
  inverse : Option (List Node) := none
deriving Repr, Inhabited

namespace OpenBlock

def add (b : OpenBlock) (n : Node) : OpenBlock :=
  match b.inverse with
  | some nodes => { b with inverse := some (n :: nodes) }
  | none => { b with body := n :: b.body }

def close (b : OpenBlock) : Node :=
  match b.opened with
  | .helper call params ownLine | .chained call params ownLine =>
    .block call params ownLine b.body.reverse (b.inverse.map List.reverse)
  | .part call => .part call (some b.body.reverse)
  | .directive call => .directive call (some b.body.reverse)

def invertible (b : OpenBlock) : Bool :=
  match b.opened with
  | .helper _ _ _ | .chained _ _ _ => b.inverse.isNone
  | _ => false

def endsWith (b : OpenBlock) (isPart : Bool) (name : String) : Bool :=
  match b.opened with
  | .helper call _ _ | .directive call => !isPart && call.helper == name
  | .chained _ _ _ => false
  | .part call =>
    match call.name with
    | .literal (.str part) => (isPart || name.toList.all isPartSymbol) && part == name
    | _ => false

end OpenBlock

/-- Nodes read so far in reverse, and the open blocks, the innermost first. -/
structure Nesting where
  nodes : List Node := []
  blocks : List OpenBlock := []
deriving Repr, Inhabited

namespace Nesting

def add (n : Nesting) (node : Node) : Nesting :=
  match n.blocks with
  | [] => { n with nodes := node :: n.nodes }
  | b :: rest => { n with blocks := b.add node :: rest }

def openBlock (n : Nesting) (opened : Opened) : Nesting :=
  { n with blocks := { opened } :: n.blocks }

def invert? (n : Nesting) : Option Nesting :=
  match n.blocks with
  | b :: rest =>
    if b.invertible then some { n with blocks := { b with inverse := some [] } :: rest } else none
  | [] => none

/-- Closes chained blocks up to the block they belong to, which the name has to end. -/
def close? (nodes : List Node) (isPart : Bool) (name : String) : List OpenBlock → Option Nesting
  | [] => none
  | b :: rest =>
    match b.opened with
    | .chained _ _ _ =>
      match rest with
      | outer :: rest => close? nodes isPart name (outer.add b.close :: rest)
      | [] => none
    | _ => if b.endsWith isPart name then some (Nesting.add ⟨nodes, rest⟩ b.close) else none
termination_by blocks => blocks.length

def tag? (n : Nesting) (ownLine : Bool) (indent : List Char) : Tag → Option Nesting
  | .value node => some (n.add node)
  | .start call params => some (n.openBlock (.helper call params ownLine))
  | .invert => n.invert?
  | .chain call params => do some ((← n.invert?).openBlock (.chained call params ownLine))
  | .part call => some (n.add (.part { call with indent, ownLine } none))
  | .startPart call => some (n.openBlock (.part { call with ownLine }))
  | .directive call => some (n.add (.directive call none))
  | .startDirective call => some (n.openBlock (.directive call))
  | .stop name => close? n.nodes false name n.blocks
  | .stopPart name => close? n.nodes true name n.blocks
  | .comment => some n

def step? (n : Nesting) : Piece → Option Nesting
  | .text cs => some (n.add (.text cs))
  | .tag tag ownLine indent => n.tag? ownLine indent tag

end Nesting

def nested (pieces : List Piece) : Option (List Node) := do
  let n ← pieces.foldlM Nesting.step? {}
  if n.blocks.isEmpty then some n.nodes.reverse else none

end Nesting

def parse (source : String) : Option (List Node) := do
  nested (spaced {} [] (← tokens source.toList))

end SchemaForge.Template
