import SchemaForge.Json.Basic
import SchemaForge.Number.Shortest

/-! The compact text of a JSON value: no blanks, members in their order, escapes only where the
format demands them, and the fewest digits for numbers that are no integers. -/

namespace SchemaForge.Json

def hexDigit (n : Nat) : Char :=
  if n < 10 then Char.ofNat (48 + n) else Char.ofNat (87 + n)

def escapeChar (c : Char) : List Char :=
  match c with
  | '"' => ['\\', '"']
  | '\\' => ['\\', '\\']
  | '\n' => ['\\', 'n']
  | '\r' => ['\\', 'r']
  | '\t' => ['\\', 't']
  | c =>
    if c.toNat == 8 then ['\\', 'b']
    else if c.toNat == 12 then ['\\', 'f']
    else if c.toNat < 32 then ['\\', 'u', '0', '0', hexDigit (c.toNat / 16), hexDigit (c.toNat % 16)]
    else [c]

def quote (s : String) : List Char :=
  '"' :: s.toList.flatMap escapeChar ++ ['"']

mutual

def printChars : Json → List Char
  | null => ['n', 'u', 'l', 'l']
  | bool true => ['t', 'r', 'u', 'e']
  | bool false => ['f', 'a', 'l', 's', 'e']
  | int n => (toString n).toList
  | real x => x.text.toList
  | str s => quote s
  | arr items => '[' :: printItems items ++ [']']
  | obj members => '\x7b' :: printMembers members ++ ['\x7d']

def printItems : List Json → List Char
  | [] => []
  | v :: rest =>
    printChars v ++ (if rest.isEmpty then [] else ',' :: printItems rest)

def printMembers : List (String × Json) → List Char
  | [] => []
  | (k, v) :: rest =>
    quote k ++ ':' :: printChars v ++ (if rest.isEmpty then [] else ',' :: printMembers rest)

end

def print (v : Json) : String :=
  String.ofList (printChars v)

end SchemaForge.Json
