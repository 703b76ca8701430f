/-! The characters and words that tags are made of. Readers take the text that is left and return
the text after what they read. -/

namespace SchemaForge.Template

/-- Why reading stops: another alternative may fit, or the template is wrong. -/
inductive Halt where
  | mismatch
  | malformed
deriving Repr, DecidableEq

def orElse (first second : Except Halt α) : Except Halt α :=
  match first with
  | .error .mismatch => second
  | result => result

def isSpace (c : Char) : Bool :=
  c == ' ' || c == '\t' || c == '\n' || c == '\r'

def skipSpace (cs : List Char) : List Char :=
  cs.dropWhile isSpace

def isSymbol (c : Char) : Bool :=
  c.isAlphanum || c == '_' || c == '-' || c == '$' || c == ':' || c == '?' || 0x80 ≤ c.toNat

def opening : List Char := ['\x7b', '\x7b']
def closing : List Char := ['\x7d', '\x7d']

def expect (word cs : List Char) : Except Halt (List Char) :=
  if word.isPrefixOf cs then .ok (cs.drop word.length) else .error .mismatch

def span (cs rest : List Char) : List Char :=
  cs.take (cs.length - rest.length)

def identifier (cs : List Char) : Except Halt (String × List Char) :=
  match cs.takeWhile isSymbol with
  | [] => .error .mismatch
  | name => .ok (String.ofList name, cs.dropWhile isSymbol)

def keyword (word : String) (cs : List Char) : Except Halt (List Char) := do
  let rest ← expect word.toList cs
  if rest.head?.any isSymbol then .error .mismatch else .ok rest

/-- Whether a word that is reserved between operands stands here: one before a symbol, with or
without space between, is part of something else. -/
def reservedAt (cs : List Char) : Bool :=
  ["as", "else"].any fun word =>
    match expect word.toList cs with
    | .ok rest => !(skipSpace rest).head?.any isSymbol
    | .error _ => false

def tilde (cs : List Char) : Bool × List Char :=
  match skipSpace cs with
  | '~' :: rest => (true, skipSpace rest)
  | rest => (false, rest)

end SchemaForge.Template
