import SchemaForge.Text.Case

/-! Names that are unique within one file. Each domain counts the uses of each base token on its
own, tokens that differ only in the case of their first letter together. -/

namespace SchemaForge

/-- How often each pair of domain and adjusted token has been used. -/
structure UniqueNames where
  counts : List ((String × String) × Nat) := []

namespace UniqueNames

def adjust (token : String) : String :=
  match token.toList with
  | [] => ""
  | c :: rest => String.ofList (Text.lower c ++ rest)

def count (names : UniqueNames) (domain token : String) : Nat :=
  (names.counts.lookup (domain, adjust token)).getD 0

def bump (key : String × String) : List ((String × String) × Nat) → List ((String × String) × Nat)
  | [] => [(key, 1)]
  | (k, n) :: rest => if k = key then (k, n + 1) :: rest else (k, n) :: bump key rest

def next (names : UniqueNames) (domain token affix : String) : String × UniqueNames :=
  let n := names.count domain token
  (affix ++ adjust token ++ toString n ++ affix, ⟨bump (domain, adjust token) names.counts⟩)

def reset : UniqueNames := {}

end UniqueNames

end SchemaForge
