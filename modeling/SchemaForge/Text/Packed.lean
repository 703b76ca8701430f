/-! Sets of characters as ranges of codes, and a short way to write them down: numbers one after the
other, each of small letters that lead and one digit or capital that ends it. They tell by turns how
many codes are left out before a range and how many it has after its first. -/

namespace SchemaForge.Text

/-- The first and the last code of each range. -/
abbrev Ranges := List (Nat × Nat)

/-- A property of characters, by its names as they are compared. -/
structure Property where
  names : List String
  packed : List String

namespace Ranges

/-- One more character of numbers that are read: what leads the next one, and those that are
complete in reverse. -/
def readDigit : Nat × List Nat → Char → Nat × List Nat
  | (lead, done), c =>
    if c.isLower then (26 * lead + (c.toNat - 97), done)
    else (0, (36 * lead + if c.isDigit then c.toNat - 48 else c.toNat - 55) :: done)

/-- The ranges that numbers tell of. No two ranges touch, so a code is left out after each. -/
def ofNumbers (start : Nat) : List Nat → Ranges
  | gap :: more :: rest =>
    (start + gap, start + gap + more) :: ofNumbers (start + gap + more + 2) rest
  | _ => []

def unpack (packed : List String) : Ranges :=
  ofNumbers 0 ((packed.flatMap String.toList).foldl readDigit (0, [])).2.reverse

def joinFrom (low high : Nat) : Ranges → Ranges
  | [] => [(low, high)]
  | (l, h) :: rest =>
    if l ≤ high + 1 then joinFrom low (max high h) rest else (low, high) :: joinFrom l h rest

def joined (ranges : Ranges) : Ranges :=
  match ranges.mergeSort (fun a b => a.1 ≤ b.1) with
  | [] => []
  | (low, high) :: rest => joinFrom low high rest

def gapsFrom (start : Nat) : Ranges → Ranges
  | [] => if start ≤ 0x10FFFF then [(start, 0x10FFFF)] else []
  | (low, high) :: rest =>
    if start < low then (start, low - 1) :: gapsFrom (high + 1) rest else gapsFrom (high + 1) rest

def outside (ranges : Ranges) : Ranges :=
  gapsFrom 0 ranges.joined

def without (ranges others : Ranges) : Ranges :=
  (ranges.outside ++ others).outside

end Ranges

namespace Property

def ranges (p : Property) : Ranges :=
  .unpack p.packed

def find? (table : List Property) (name : String) : Option Ranges :=
  (table.find? (·.names.contains name)).map ranges

end Property

end SchemaForge.Text
