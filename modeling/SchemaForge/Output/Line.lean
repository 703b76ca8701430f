import SchemaForge.Text.Blank

/-! Lines of output and how text is cut into them. A line ends with a line feed, or with a
carriage return and a line feed; only the last line of a text may have no terminator. -/

namespace SchemaForge

structure Line where
  content : List Char
  terminator : List Char
deriving Repr, DecidableEq

namespace Line

def elided : Line := ⟨[], []⟩

def isElided (line : Line) : Bool :=
  line.content.isEmpty && line.terminator.isEmpty

def isBlank (line : Line) : Bool :=
  line.content.all Text.isBlank

def text (line : Line) : List Char :=
  line.content ++ line.terminator

/-- The line that a line feed ends; `raw` holds its characters, the last first. -/
def ofReversed (raw : List Char) : Line :=
  match raw with
  | '\r' :: rest => ⟨rest.reverse, ['\r', '\n']⟩
  | _ => ⟨raw.reverse, ['\n']⟩

/-- The lines that end within a text, and what is left of it; `partly` holds the characters of the
line that has begun, the last first. -/
def cut (partly : List Char) : List Char → List Line × List Char
  | [] => ([], partly)
  | c :: rest =>
    if c = '\n' then
      let (lines, left) := cut [] rest
      (ofReversed partly :: lines, left)
    else cut (c :: partly) rest

def remainder? (partly : List Char) : Option Line :=
  if partly.isEmpty then none else some ⟨partly.reverse, []⟩

def split (text : List Char) : List Line :=
  let (lines, left) := cut [] text
  lines ++ (remainder? left).toList

theorem cut_append (partly a b : List Char) :
    cut partly (a ++ b) =
      ((cut partly a).1 ++ (cut (cut partly a).2 b).1, (cut (cut partly a).2 b).2) := by
  induction a generalizing partly with
  | nil => simp [cut]
  | cons c rest ih =>
    by_cases h : c = '\n'
    · simp [cut, h, ih]
    · simp [cut, h, ih]

end Line

end SchemaForge
