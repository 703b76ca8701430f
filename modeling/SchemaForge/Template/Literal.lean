import SchemaForge.Json.Parser
import SchemaForge.Template.Basic
import SchemaForge.Template.Symbol

/-! Literals in tags: JSON values, and texts in single quotes. What looks like a literal has to be
one. -/

namespace SchemaForge.Template

def afterQuoted (quote : Char) : List Char → Option (List Char)
  | [] => none
  | '\\' :: _ :: rest => afterQuoted quote rest
  | c :: rest => if c == quote then some rest else afterQuoted quote rest

def afterText : List Char → Option (List Char)
  | '"' :: rest => afterQuoted '"' rest
  | '\x27' :: rest => afterQuoted '\x27' rest
  | _ => none

def afterNumber (cs : List Char) : Option (List Char) :=
  let body := match cs with
    | '-' :: rest => rest
    | _ => cs
  if body.head?.any Char.isDigit then
    let body := body.dropWhile Char.isDigit
    let body := match body with
      | '.' :: rest => rest.dropWhile Char.isDigit
      | _ => body
    let body := match body with
      | 'E' :: '-' :: d :: rest => if d.isDigit then rest.dropWhile Char.isDigit else body
      | 'E' :: d :: rest => if d.isDigit then rest.dropWhile Char.isDigit else body
      | _ => body
    if body.head?.any isSymbol then none else some body
  else none

def afterWord (cs : List Char) : Option (List Char) :=
  ["null", "true", "false"].findSome? fun word => (keyword word cs).toOption

mutual

def afterLiteral : (fuel : Nat) → List Char → Option (List Char)
  | 0, _ => none
  | fuel + 1, cs =>
    match cs with
    | '[' :: rest =>
      let first := (afterLiteral fuel (skipSpace rest)).getD rest
      afterItems fuel (skipSpace first)
    | '\x7b' :: rest =>
      let first := (afterMember fuel (skipSpace rest)).getD rest
      afterMembers fuel (skipSpace first)
    | _ => afterText cs <|> afterNumber cs <|> afterWord cs

def afterItems : (fuel : Nat) → List Char → Option (List Char)
  | 0, _ => none
  | fuel + 1, cs =>
    match cs with
    | ']' :: rest => some rest
    | ',' :: rest => do afterItems fuel (skipSpace (← afterLiteral fuel (skipSpace rest)))
    | _ => none

def afterMember : (fuel : Nat) → List Char → Option (List Char)
  | 0, _ => none
  | fuel + 1, cs => do
    match skipSpace (← afterText cs) with
    | ':' :: rest => afterLiteral fuel (skipSpace rest)
    | _ => none

def afterMembers : (fuel : Nat) → List Char → Option (List Char)
  | 0, _ => none
  | fuel + 1, cs =>
    match cs with
    | '\x7d' :: rest => some rest
    | ',' :: rest => do afterMembers fuel (skipSpace (← afterMember fuel (skipSpace rest)))
    | _ => none

end

def requote : List Char → List Char
  | '\\' :: '\x27' :: rest => '\x27' :: requote rest
  | '"' :: rest => '\\' :: '"' :: requote rest
  | c :: rest => c :: requote rest
  | [] => []

def literalText : List Char → List Char
  | '\x27' :: rest => '"' :: requote rest.dropLast ++ ['"']
  | cs => cs

def literal (cs : List Char) : Except Halt (Operand × List Char) :=
  match afterLiteral (2 * cs.length + 2) cs with
  | none => .error .mismatch
  | some rest =>
    match Json.parse (String.ofList (literalText (span cs rest))) with
    | .ok value => .ok (.literal value.sorted, rest)
    | .error _ => .error .malformed

end SchemaForge.Template
