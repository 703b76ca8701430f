import SchemaForge.Text.Blank
import SchemaForge.Text.Fold
import SchemaForge.Text.Packed
import SchemaForge.Text.WordTable

/-! Sets of characters as they are written in patterns. -/

namespace SchemaForge.Pattern

inductive CharClass where
  | none
  | range (low high : Char)
  | listed (codes : Text.Ranges)
  | digit
  | word
  | space
  | union (left right : CharClass)
  | inter (left right : CharClass)
  | diff (left right : CharClass)
  | compl (inner : CharClass)
  /-- Every character that differs from a member only in case. -/
  | anyCase (inner : CharClass)
deriving Repr, DecidableEq

def inRanges (ranges : List (Nat × Nat)) (code : Nat) : Bool :=
  ranges.any fun (low, high) => low ≤ code && code ≤ high

def isDigit (c : Char) : Bool :=
  if c.toNat < 128 then c.isDigit else inRanges Text.digitRanges c.toNat

def isWord (c : Char) : Bool :=
  if c.toNat < 128 then c.isAlphanum || c == '_' else inRanges Text.wordRanges c.toNat

namespace CharClass

def contains : CharClass → Char → Bool
  | none, _ => false
  | range low high, c => low ≤ c && c ≤ high
  | listed codes, c => inRanges codes c.toNat
  | digit, c => isDigit c
  | word, c => isWord c
  | space, c => Text.isBlank c
  | union a b, c => a.contains c || b.contains c
  | inter a b, c => a.contains c && b.contains c
  | diff a b, c => a.contains c && !b.contains c
  | compl a, c => !a.contains c
  | anyCase a, c => (Text.caseVariants c).any a.contains

def single (c : Char) : CharClass :=
  range c c

def all : CharClass :=
  compl none

def ofRanges (ranges : List (Char × Char)) : CharClass :=
  ranges.foldl (fun acc (low, high) => union acc (range low high)) none

def named? : String → Option (List (Char × Char))
  | "alnum" => some [('0', '9'), ('A', 'Z'), ('a', 'z')]
  | "alpha" => some [('A', 'Z'), ('a', 'z')]
  | "ascii" => some [('\x00', '\x7f')]
  | "blank" => some [('\t', '\t'), (' ', ' ')]
  | "cntrl" => some [('\x00', '\x1f'), ('\x7f', '\x7f')]
  | "digit" => some [('0', '9')]
  | "graph" => some [('!', '~')]
  | "lower" => some [('a', 'z')]
  | "print" => some [(' ', '~')]
  | "punct" => some [('!', '/'), (':', '@'), ('[', '\x60'), ('\x7b', '~')]
  | "space" => some [('\t', '\r'), (' ', ' ')]
  | "upper" => some [('A', 'Z')]
  | "word" => some [('0', '9'), ('A', 'Z'), ('_', '_'), ('a', 'z')]
  | "xdigit" => some [('0', '9'), ('A', 'F'), ('a', 'f')]
  | _ => Option.none

@[simp] theorem contains_single (c d : Char) : (single c).contains d = decide (d = c) := by
  by_cases h : d = c
  · subst h; simp [single, contains]
  · simp only [single, contains, h, decide_false, Bool.and_eq_false_iff, decide_eq_false_iff_not]
    by_cases hd : c ≤ d
    · exact Or.inr fun hcd => h (Char.le_antisymm hcd hd)
    · exact Or.inl hd

end CharClass

end SchemaForge.Pattern
