import SchemaForge.Measure

/-! Where a quoted value stands in the text of a rule table. Offsets and lengths count bytes of
UTF-8. -/

namespace SchemaForge

structure Span where
  offset : Nat
  length : Nat
deriving Repr, DecidableEq

namespace Span

def byteSize (cs : List Char) : Nat :=
  total Char.utf8Size cs

def before? (needle : List Char) : List Char → Option (List Char)
  | [] => if needle.isEmpty then some [] else none
  | c :: rest =>
    if needle.isPrefixOf (c :: rest) then some []
    else (before? needle rest).map (c :: ·)

def quoted? (text : List Char) (mark : Char) (body : List Char) : Option Span :=
  (before? (mark :: body ++ [mark]) text).map fun lead =>
    ⟨byteSize lead + 1, byteSize body⟩

def doubleBackslashes (cs : List Char) : List Char :=
  cs.flatMap fun c => if c = '\\' then ['\\', '\\'] else [c]

/-- Looks for a value in double quotes, then in single quotes, then in double quotes with its
backslashes doubled. -/
def ofValue? (text value : String) : Option Span :=
  let source := text.toList
  let body := value.toList
  if body.isEmpty then none
  else quoted? source '"' body <|> quoted? source '\'' body
    <|> quoted? source '"' (doubleBackslashes body)

end Span

end SchemaForge
