import SchemaForge.Pattern.CharClass

/-! Regular expressions and the search for a match anywhere in a text. Only whether a match
exists is ever asked, so greedy and lazy repetition are one constructor. Matching keeps the set of
what may be left to match, character by character; look-around assertions see the characters
before and after the position. -/

namespace SchemaForge

inductive Pattern.Look where
  | textStart
  | textEnd
  | lineStart
  | lineEnd
  /-- The edges of lines that end in a carriage return, a line feed or both. -/
  | anyLineStart
  | anyLineEnd
  | wordEdge
  | wordInside
  | wordStart
  | wordEnd
  | beforeWord
  | afterWord
deriving Repr, DecidableEq

inductive Pattern where
  | never
  | empty
  | one (cls : Pattern.CharClass)
  /-- An assertion, with the characters that count as parts of words. -/
  | look (what : Pattern.Look) (letters : Pattern.CharClass)
  | seq (first second : Pattern)
  | alt (left right : Pattern)
  /-- Between `least` and `most` repetitions, without a bound if there is no `most`. -/
  | repeated (inner : Pattern) (least : Nat) (most : Option Nat)
deriving Repr, DecidableEq

namespace Pattern

def Look.holds (isWord : Char → Bool) : Look → (before after : Option Char) → Bool
  | textStart, before, _ => before.isNone
  | textEnd, _, after => after.isNone
  | lineStart, before, _ => before.isNone || before == some '\n'
  | lineEnd, _, after => after.isNone || after == some '\n'
  | anyLineStart, before, after =>
    before.isNone || before == some '\n' || (before == some '\r' && after != some '\n')
  | anyLineEnd, before, after =>
    after.isNone || after == some '\r' || (after == some '\n' && before != some '\r')
  | wordEdge, before, after => before.any isWord != after.any isWord
  | wordInside, before, after => before.any isWord == after.any isWord
  | wordStart, before, after => !before.any isWord && after.any isWord
  | wordEnd, before, after => before.any isWord && !after.any isWord
  | beforeWord, before, _ => !before.any isWord
  | afterWord, _, after => !after.any isWord

/-- Whether the pattern matches nothing at a position between two characters. -/
def nullable (before after : Option Char) : Pattern → Bool
  | never => false
  | empty => true
  | one _ => false
  | look what letters => what.holds letters.contains before after
  | seq a b => nullable before after a && nullable before after b
  | alt a b => nullable before after a || nullable before after b
  | repeated a least _ => least == 0 || nullable before after a

def mkSeq : Pattern → Pattern → Pattern
  | empty, b => b
  | a, b => seq a b

def mkRepeated (a : Pattern) (least : Nat) : Option Nat → Pattern
  | some 0 => empty
  | most => repeated a least most

/-- What may be left to match once `c` has been read after `before`; nothing if it cannot be. -/
def derivs (before : Option Char) (c : Char) : Pattern → List Pattern
  | never => []
  | empty => []
  | one cls => if cls.contains c then [empty] else []
  | look _ _ => []
  | seq a b =>
    (derivs before c a).map (mkSeq · b)
      ++ (if nullable before (some c) a then derivs before c b else [])
  | alt a b => derivs before c a ++ derivs before c b
  | repeated _ _ (some 0) => []
  | repeated a least most =>
    let rest := mkRepeated a (if nullable before (some c) a then 0 else least - 1) (most.map (· - 1))
    (derivs before c a).map (mkSeq · rest)

/-- Whether one of the alternatives left matches some beginning of the text after `before`, or `p`
matches at a later position. -/
def search (p : Pattern) (before : Option Char) (left : List Pattern) : List Char → Bool
  | [] => left.any (nullable before none)
  | c :: rest =>
    left.any (nullable before (some c))
      || search p (some c) (p :: left.flatMap (derivs before c)).eraseDups rest

def isMatch (p : Pattern) (text : List Char) : Bool :=
  search p none [p] text

end Pattern

end SchemaForge
