import SchemaForge.Naming.Unique
import SchemaForge.Template.Basic

/-! What a template has printed so far. The lines of a part are indented like the reference to it:
blanks go before its first line, if that starts a line, and after each line break inside. -/

namespace SchemaForge.Template

structure Output where
  /-- What has been printed, the latest first. -/
  pieces : List (List Char) := []
  /-- Blanks before the lines of the part that is being rendered. -/
  indent : List Char := []
  endsLine : Bool := false
  /-- Whether the next text is indented, unless it starts with a line break. -/
  indentsNext : Bool := false
  /-- Whether anything has been printed since the innermost call began. -/
  produced : Bool := false

namespace Output

def text (o : Output) : List Char :=
  o.pieces.reverse.flatten

def isLineBreak (c : Char) : Bool :=
  c == '\n' || c == '\r'

/-- Puts blanks after every line break but one at the end. -/
def indented (blanks : List Char) : List Char → List Char
  | [] => []
  | [c] => [c]
  | c :: d :: rest =>
    if c == '\n' then c :: blanks ++ indented blanks (d :: rest) else c :: indented blanks (d :: rest)

def print (o : Output) (cs : List Char) : Output :=
  if cs.isEmpty then o
  else
    let lead := if o.indentsNext && !cs.head?.any isLineBreak then o.indent else []
    let body := if o.indent.isEmpty then cs else indented o.indent cs
    let ends := cs.getLast?.any isLineBreak
    { o with
      pieces := body :: lead :: o.pieces
      endsLine := ends
      indentsNext := ends
      produced := true }

def enter (o : Output) (indentsNext : Bool) : Output :=
  { o with produced := false, indentsNext }

def leave (o before : Output) : Output :=
  if o.produced then { o with indentsNext := o.endsLine }
  else { o with produced := before.produced, indentsNext := before.indentsNext }

end Output

end SchemaForge.Template
