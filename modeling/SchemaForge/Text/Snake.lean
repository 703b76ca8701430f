import SchemaForge.Text.Case

/-! Snake case and macro names. A capital opens a new word after a lowercase letter or a digit,
and after another capital when a lowercase letter follows, so runs of capitals stay together. -/

namespace SchemaForge.Text

def isAsciiDigit (c : Char) : Bool :=
  '0' ≤ c && c ≤ '9'

def opensWord (before : Option Char) (c : Char) (after : Option Char) : Bool :=
  isUppercase c && match before with
    | none => false
    | some p => isLowercase p || isAsciiDigit p
        || (isUppercase p && after.any isLowercase)

def snakeLetter (c : Char) : List Char :=
  if c == '-' || c == '.' then ['_'] else lower c

def snakeFrom (before : Option Char) : List Char → List Char
  | [] => []
  | c :: rest =>
    (if opensWord before c rest.head? then ['_'] else []) ++ snakeLetter c ++ snakeFrom (some c) rest

def snakeCase (s : String) : String :=
  String.ofList (snakeFrom none s.toList)

def macroName (s : String) : String :=
  upperString (snakeCase s)

@[simp] theorem snakeFrom_nil (before : Option Char) : snakeFrom before [] = [] := rfl

end SchemaForge.Text
