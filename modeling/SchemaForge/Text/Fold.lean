import SchemaForge.Text.FoldTable
import SchemaForge.Text.Case

/-! Letters that are the same when case does not count. -/

namespace SchemaForge.Text

def CaseRun.preimage? (run : CaseRun) (code : Nat) : Option Nat :=
  if run.target ≤ code && code - run.target ≤ run.last - run.first
      && (code - run.target) % run.step == 0 then
    some (run.first + (code - run.target))
  else none

/-- The letter that stands for all letters differing only in case. -/
def fold (c : Char) : Char :=
  if c.toNat < 128 then c.toLower
  else match foldRuns.findSome? (·.image? c.toNat) with
    | some code => Char.ofNat code
    | none => c

def caseVariants (c : Char) : List Char :=
  let base := fold c
  base :: base.toUpper :: foldRuns.filterMap fun run =>
    (run.preimage? base.toNat).map Char.ofNat

end SchemaForge.Text
