import SchemaForge.Pattern.Basic

/-! Patterns as they are written. From the written form follow the pattern itself, how deep its
parts nest, and how much room it takes once its repetitions are written out; the last two are
limited. -/

namespace SchemaForge.Pattern

structure Flags where
  ignoreCase : Bool := false
  multiLine : Bool := false
  dotAll : Bool := false
  /-- Lines may end in a carriage return as well. -/
  anyLineEnd : Bool := false
  /-- Blanks and comments between the parts are left out. -/
  verbose : Bool := false
  unicode : Bool := true
deriving Repr, DecidableEq

/-- A character that differs from a member only in case belongs to a class, too. -/
def Flags.folded (flags : Flags) (cls : CharClass) : CharClass :=
  if flags.ignoreCase then .anyCase cls else cls

inductive SetOp where
  | inter
  | diff
  | symm
deriving Repr, DecidableEq

def SetOp.apply : SetOp → CharClass → CharClass → CharClass
  | inter, a, b => .inter a b
  | diff, a, b => .diff a b
  | symm, a, b => .union (.diff a b) (.diff b a)

inductive ClassSyntax where
  | range (low high : Char)
  /-- A class with a letter of its own, and the number of its ranges. -/
  | lettered (cls : CharClass) (ranges : Nat)
  | named (ranges : List (Char × Char)) (negated : Bool)
  | bracket (negated : Bool) (inner : ClassSyntax)
  | union (items : List ClassSyntax)
  | op (kind : SetOp) (left right : ClassSyntax)
deriving Repr, Inhabited

namespace ClassSyntax

def ofItems : List ClassSyntax → ClassSyntax
  | [item] => item
  | items => union items

mutual

/-- The class, with case put out of account before each negation and set operation. -/
def toClass (flags : Flags) : ClassSyntax → CharClass
  | range low high => .range low high
  | lettered cls _ => cls
  | named ranges negated =>
    let cls := flags.folded (.ofRanges ranges)
    if negated then .compl cls else cls
  | bracket negated inner =>
    let cls := flags.folded (toClass flags inner)
    if negated then .compl cls else cls
  | union items => unionOf flags items
  | op kind left right =>
    kind.apply (flags.folded (toClass flags left)) (flags.folded (toClass flags right))

def unionOf (flags : Flags) : List ClassSyntax → CharClass
  | [] => .none
  | item :: rest => .union (toClass flags item) (unionOf flags rest)

end

mutual

def nesting : ClassSyntax → Nat
  | range _ _ => 0
  | lettered _ _ => 0
  | named _ _ => 0
  | bracket _ inner => nesting inner + 1
  | union items => if items.isEmpty then 0 else nestingAll items + 1
  | op _ left right => max (nesting left) (nesting right) + 1

def nestingAll : List ClassSyntax → Nat
  | [] => 0
  | item :: rest => max (nesting item) (nestingAll rest)

end

mutual

def ranges : ClassSyntax → Nat
  | range _ _ => 1
  | lettered _ n => n
  | named rs _ => rs.length
  | bracket _ inner => ranges inner
  | union items => rangesAll items
  | op _ left right => ranges left + ranges right

def rangesAll : List ClassSyntax → Nat
  | [] => 0
  | item :: rest => ranges item + rangesAll rest

end

mutual

/-- Whether the class is written with ASCII characters only and without negation. -/
def isPlain : ClassSyntax → Bool
  | range _ high => high.toNat < 128
  | lettered _ _ => false
  | named _ negated => !negated
  | bracket negated inner => !negated && isPlain inner
  | union items => allPlain items
  | op _ left right => isPlain left && isPlain right

def allPlain : List ClassSyntax → Bool
  | [] => true
  | item :: rest => isPlain item && allPlain rest

end

end ClassSyntax

inductive Syntax where
  | empty
  /-- A change of flags, which stands for nothing. -/
  | setFlags
  | leaf (pattern : Pattern) (size : Nat)
  | cls (flags : Flags) (set : ClassSyntax)
  | group (captures : Bool) (inner : Syntax)
  | repeated (inner : Syntax) (least : Nat) (most : Option Nat)
  | alt (items : List Syntax)
  | concat (items : List Syntax)
deriving Repr, Inhabited

namespace Syntax

def ofItems : List Syntax → Syntax
  | [] => empty
  | [item] => item
  | items => concat items

def ofAlternatives : List Syntax → Syntax
  | [item] => item
  | items => alt items

mutual

def toPattern : Syntax → Pattern
  | empty => .empty
  | setFlags => .empty
  | leaf p _ => p
  | cls flags set => .one (set.toClass flags)
  | group _ inner => toPattern inner
  | repeated inner least most => .repeated (toPattern inner) least most
  | alt items => anyOf items
  | concat items => allOf items

def anyOf : List Syntax → Pattern
  | [] => .never
  | [item] => toPattern item
  | item :: rest => .alt (toPattern item) (anyOf rest)

def allOf : List Syntax → Pattern
  | [] => .empty
  | [item] => toPattern item
  | item :: rest => mkSeq (toPattern item) (allOf rest)

end

mutual

def nesting : Syntax → Nat
  | empty => 0
  | setFlags => 0
  | leaf _ _ => 0
  | cls _ set => set.nesting
  | group _ inner => nesting inner + 1
  | repeated inner _ _ => nesting inner + 1
  | alt items => nestingAll items + 1
  | concat items => nestingAll items + 1

def nestingAll : List Syntax → Nat
  | [] => 0
  | item :: rest => max (nesting item) (nestingAll rest)

end

def stateSize : Nat := 32

/-- The room of a class: a state, and its ranges, which take more beyond ASCII. -/
def classSize (flags : Flags) (set : ClassSyntax) : Nat :=
  let ranges := if flags.ignoreCase then 2 * set.ranges else set.ranges
  if set.isPlain && !flags.ignoreCase then 2 * stateSize + 8 * ranges
  else 2 * stateSize + 70 * ranges

mutual

def size : Syntax → Nat
  | empty => stateSize
  | setFlags => stateSize
  | leaf _ n => n
  | cls flags set => classSize flags set
  | group captures inner => size inner + (if captures then 2 * stateSize else 0)
  | repeated inner least most =>
    let one := size inner
    match most with
    | none => max least 1 * one + stateSize + 8
    | some most => least * one + (most - least) * (one + stateSize + 8) + stateSize
  | alt items => sizeAll items + 2 * stateSize + 4 * items.length
  | concat items => sizeAll items

def sizeAll : List Syntax → Nat
  | [] => 0
  | item :: rest => size item + sizeAll rest

end

end Syntax

end SchemaForge.Pattern
