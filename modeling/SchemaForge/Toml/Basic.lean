/-! TOML values, and laying one table over another: tables are merged key by key, everything
else is replaced as a whole. -/

namespace SchemaForge.Toml

inductive Value where
  | string (s : String)
  | integer (n : Int)
  /-- A float keeps its text; no rule reads one. -/
  | float (literal : String)
  | boolean (b : Bool)
  /-- A date or a time keeps its text as well. -/
  | moment (literal : String)
  | array (items : List Value)
  | table (entries : List (String × Value))
deriving Repr, Inhabited

abbrev Table := List (String × Value)

namespace Table

/-- Replaces the value of a key in its place, or adds the key at the end. -/
def insert (key : String) (value : Value) : Table → Table
  | [] => [(key, value)]
  | (k, v) :: rest => if k = key then (key, value) :: rest else (k, v) :: insert key value rest

theorem lookup_insert_self (key : String) (value : Value) (t : Table) :
    (insert key value t).lookup key = some value := by
  induction t with
  | nil => simp [insert]
  | cons e rest ih =>
    obtain ⟨k, v⟩ := e
    by_cases h : k = key
    · simp [insert, h]
    · have hk : (key == k) = false := beq_eq_false_iff_ne.mpr (Ne.symm h)
      simp only [insert, if_neg h, List.lookup_cons, hk]
      exact ih

theorem lookup_insert_of_ne {key other : String} (value : Value) (t : Table) (h : other ≠ key) :
    (insert key value t).lookup other = t.lookup other := by
  have ho : (other == key) = false := beq_eq_false_iff_ne.mpr h
  induction t with
  | nil => simp only [insert, List.lookup_cons, ho]
  | cons e rest ih =>
    obtain ⟨k, v⟩ := e
    by_cases hk : k = key
    · subst hk
      simp only [insert, if_true, List.lookup_cons, ho]
    · simp only [insert, if_neg hk, List.lookup_cons]
      rw [ih]

end Table

mutual

/-- What stands at a key once the second value is laid over the first. -/
def Value.over : Option Value → Value → Value
  | some (.table base), .table entries => .table (overEntries base entries)
  | _, v => v

def overEntries (base : List (String × Value)) :
    List (String × Value) → List (String × Value)
  | [] => base
  | (k, v) :: rest => overEntries (Table.insert k (Value.over (base.lookup k) v) base) rest

end

def Table.merge (base overlay : Table) : Table :=
  overEntries base overlay

@[simp] theorem Table.merge_nil (base : Table) : base.merge [] = base := by
  simp [Table.merge, overEntries]

end SchemaForge.Toml
