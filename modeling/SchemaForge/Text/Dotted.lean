/-! Dotted names and their components. -/

namespace SchemaForge.Text

/-- Cuts a text at every separator; there is always at least one piece. -/
def splitAt (sep : Char) : List Char → List (List Char)
  | [] => [[]]
  | c :: rest =>
    if c = sep then [] :: splitAt sep rest
    else match splitAt sep rest with
      | [] => [[c]]
      | piece :: pieces => (c :: piece) :: pieces

def splitLast? (sep : Char) : List Char → Option (List Char × List Char)
  | [] => none
  | c :: rest =>
    match splitLast? sep rest with
    | some (lead, last) => some (c :: lead, last)
    | none => if c = sep then some ([], rest) else none

def beforeEach (sep : Char) : List Char → List (List Char)
  | [] => []
  | c :: rest => (beforeEach sep rest).map (c :: ·) ++ if c = sep then [[]] else []

def joinWith (sep : List Char) : List (List Char) → List Char
  | [] => []
  | [piece] => piece
  | piece :: pieces => piece ++ sep ++ joinWith sep pieces

def components (name : String) : List String :=
  (splitAt '.' name.toList).map String.ofList

/-- The name without its last component; none if it has only one. -/
def parentName? (name : String) : Option String :=
  (splitLast? '.' name.toList).map fun (lead, _) => String.ofList lead

def ancestors (name : String) : List String :=
  (beforeEach '.' name.toList).map String.ofList

def lastComponent (name : String) : String :=
  match splitLast? '.' name.toList with
  | some (_, last) => String.ofList last
  | none => name

def joinStrings (sep : String) (pieces : List String) : String :=
  String.ofList (joinWith sep.toList (pieces.map String.toList))

theorem splitAt_ne_nil {sep : Char} {cs : List Char} : splitAt sep cs ≠ [] := by
  cases cs with
  | nil => simp [splitAt]
  | cons c rest =>
    unfold splitAt
    split
    · simp
    · split <;> simp

theorem joinWith_splitAt (sep : Char) (cs : List Char) : joinWith [sep] (splitAt sep cs) = cs := by
  induction cs with
  | nil => rfl
  | cons c rest ih =>
    by_cases h : c = sep
    · cases hs : splitAt sep rest with
      | nil => exact absurd hs splitAt_ne_nil
      | cons p ps => rw [hs] at ih; simp [splitAt, h, hs, joinWith, ih]
    · cases hs : splitAt sep rest with
      | nil => exact absurd hs splitAt_ne_nil
      | cons p ps =>
        rw [hs] at ih
        cases ps with
        | nil => simpa [splitAt, h, hs, joinWith] using ih
        | cons q qs => simpa [splitAt, h, hs, joinWith] using ih

theorem splitLast?_eq_some {sep : Char} {cs lead last : List Char}
    (h : splitLast? sep cs = some (lead, last)) : cs = lead ++ sep :: last := by
  induction cs generalizing lead with
  | nil => simp [splitLast?] at h
  | cons c rest ih =>
    unfold splitLast? at h
    cases hrest : splitLast? sep rest with
    | some halves =>
      obtain ⟨lead', last'⟩ := halves
      obtain ⟨rfl, rfl⟩ : c :: lead' = lead ∧ last' = last := by simpa [hrest] using h
      rw [List.cons_append, ← ih hrest]
    | none =>
      obtain ⟨rfl, rfl, rfl⟩ : c = sep ∧ [] = lead ∧ rest = last := by simpa [hrest] using h
      rfl

theorem length_lt_of_parentName? {name parent : String} (h : parentName? name = some parent) :
    parent.length < name.length := by
  obtain ⟨⟨lead, last⟩, hsplit, rfl⟩ := Option.map_eq_some_iff.mp h
  have hname := congrArg List.length (splitLast?_eq_some hsplit)
  rw [String.length_ofList, ← String.length_toList, hname, List.length_append, List.length_cons]
  omega

end SchemaForge.Text
