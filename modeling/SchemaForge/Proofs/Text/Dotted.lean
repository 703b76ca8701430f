import Mathlib.Data.List.Infix
import SchemaForge.Text.Dotted

/-! Dotted names and the names above them. A name is at or above another exactly if its components
come first among the other's, and the names above a name form one chain that taking off the last
component walks through. -/

namespace SchemaForge.Text

section Pieces

variable {sep : Char} {cs ds lead last : List Char}

theorem splitAt_append_sep :
    splitAt sep (cs ++ sep :: ds) = splitAt sep cs ++ splitAt sep ds := by
  induction cs with
  | nil => simp [splitAt]
  | cons c rest ih =>
    rw [List.cons_append, splitAt, splitAt, ih]
    by_cases hc : c = sep
    · simp [hc]
    · simp only [if_neg hc]
      cases hrest : splitAt sep rest with
      | nil => exact absurd hrest splitAt_ne_nil
      | cons piece pieces => rfl

theorem splitAt_of_notMem (h : sep ∉ cs) : splitAt sep cs = [cs] := by
  induction cs with
  | nil => rfl
  | cons c rest ih =>
    obtain ⟨hc, hrest⟩ := not_or.mp (mt List.mem_cons.mpr h)
    simp [splitAt, Ne.symm hc, ih hrest]

theorem splitAt_cons (sep c : Char) (cs : List Char) : ∃ first rest,
    splitAt sep cs = first :: rest ∧
      splitAt sep (c :: cs) = if c = sep then [] :: first :: rest else (c :: first) :: rest := by
  cases hcs : splitAt sep cs with
  | nil => exact absurd hcs splitAt_ne_nil
  | cons first rest => exact ⟨first, rest, rfl, by rw [splitAt, hcs]⟩

theorem of_mem_splitAt {piece : List Char} (h : piece ∈ splitAt sep cs) :
    (∀ c ∈ piece, c ∈ cs) ∧ sep ∉ piece := by
  induction cs generalizing piece with
  | nil =>
    rw [splitAt, List.mem_singleton] at h
    simp [h]
  | cons c cs ih =>
    obtain ⟨first, rest, hcs, hsplit⟩ := splitAt_cons sep c cs
    rw [hcs] at ih
    rw [hsplit] at h
    split at h
    · rcases List.mem_cons.mp h with rfl | h
      · simp
      · exact ⟨fun d hd => List.mem_cons_of_mem c ((ih h).1 d hd), (ih h).2⟩
    · rename_i hc
      rcases List.mem_cons.mp h with rfl | h
      · obtain ⟨hfirst, hsep⟩ := ih List.mem_cons_self
        refine ⟨?_, by simp [Ne.symm hc, hsep]⟩
        intro d hd
        rcases List.mem_cons.mp hd with rfl | hd
        · exact List.mem_cons_self
        · exact List.mem_cons_of_mem c (hfirst d hd)
      · obtain ⟨hpiece, hsep⟩ := ih (List.mem_cons_of_mem first h)
        exact ⟨fun d hd => List.mem_cons_of_mem c (hpiece d hd), hsep⟩

theorem splitAt_append_left (ds : List Char) (h : sep ∉ cs) : ∃ first rest,
    splitAt sep ds = first :: rest ∧ splitAt sep (cs ++ ds) = (cs ++ first) :: rest := by
  induction cs with
  | nil =>
    obtain ⟨first, rest, hds, -⟩ := splitAt_cons sep sep ds
    exact ⟨first, rest, hds, hds⟩
  | cons c cs ih =>
    obtain ⟨hc, hcs⟩ := not_or.mp (mt List.mem_cons.mpr h)
    obtain ⟨first, rest, hds, hsplit⟩ := ih hcs
    refine ⟨first, rest, hds, ?_⟩
    rw [List.cons_append, splitAt, if_neg (Ne.symm hc), hsplit]
    rfl

theorem splitAt_append_right (cs : List Char) (h : sep ∉ ds) : ∃ before last,
    splitAt sep cs = before ++ [last] ∧ splitAt sep (cs ++ ds) = before ++ [last ++ ds] := by
  induction cs with
  | nil => exact ⟨[], [], rfl, splitAt_of_notMem h⟩
  | cons c cs ih =>
    obtain ⟨before, last, hcs, hsplit⟩ := ih
    rw [List.cons_append, splitAt, splitAt, hcs, hsplit]
    by_cases hc : c = sep
    · exact ⟨[] :: before, last, by simp [hc]⟩
    · cases before with
      | nil => exact ⟨[], c :: last, by simp [hc]⟩
      | cons first before => exact ⟨(c :: first) :: before, last, by simp [hc]⟩

theorem joinWith_append {ps qs : List (List Char)} (hps : ps ≠ []) (hqs : qs ≠ []) :
    joinWith [sep] (ps ++ qs) = joinWith [sep] ps ++ sep :: joinWith [sep] qs := by
  induction ps with
  | nil => exact absurd rfl hps
  | cons piece pieces ih =>
    cases pieces with
    | nil =>
      cases qs with
      | nil => exact absurd rfl hqs
      | cons q qs => simp [joinWith]
    | cons next rest =>
      have htail := ih (List.cons_ne_nil next rest)
      simp only [List.cons_append, joinWith] at htail ⊢
      rw [htail]
      simp

theorem splitAt_joinWith {pieces : List (List Char)} (hne : pieces ≠ [])
    (h : ∀ piece ∈ pieces, sep ∉ piece) : splitAt sep (joinWith [sep] pieces) = pieces := by
  induction pieces with
  | nil => exact absurd rfl hne
  | cons piece rest ih =>
    rw [List.forall_mem_cons] at h
    cases rest with
    | nil => exact splitAt_of_notMem h.1
    | cons next rest =>
      have hrest := ih (List.cons_ne_nil next rest) h.2
      have hjoin : joinWith [sep] (piece :: next :: rest) =
          piece ++ sep :: joinWith [sep] (next :: rest) := by
        rw [joinWith]
        · simp
        · simp
      rw [hjoin, splitAt_append_sep, splitAt_of_notMem h.1, hrest, List.singleton_append]

/-- The pieces of a text come first among those of another if the texts are the same or the other
goes on after a separator. -/
theorem splitAt_isPrefix_iff :
    splitAt sep cs <+: splitAt sep ds ↔ ds = cs ∨ ∃ rest, ds = cs ++ sep :: rest := by
  constructor
  · rintro ⟨pieces, hpieces⟩
    have hds := congrArg (joinWith [sep]) hpieces
    rw [joinWith_splitAt] at hds
    cases pieces with
    | nil =>
      left
      rw [← hds, List.append_nil, joinWith_splitAt]
    | cons piece pieces =>
      right
      rw [joinWith_append splitAt_ne_nil (List.cons_ne_nil piece pieces), joinWith_splitAt] at hds
      exact ⟨_, hds.symm⟩
  · rintro (rfl | ⟨rest, rfl⟩)
    · exact List.prefix_rfl
    · rw [splitAt_append_sep]
      exact List.prefix_append _ _

theorem splitLast?_eq_none_iff : splitLast? sep cs = none ↔ sep ∉ cs := by
  induction cs with
  | nil => simp [splitLast?]
  | cons c rest ih =>
    unfold splitLast?
    cases hrest : splitLast? sep rest with
    | some halves =>
      have hmem : sep ∈ rest := by
        by_contra hnot
        rw [ih.mpr hnot] at hrest
        cases hrest
      simp [hmem]
    | none =>
      have hnot := ih.mp hrest
      by_cases hc : c = sep
      · simp [hc]
      · simp [hc, Ne.symm hc, hnot]

theorem splitLast?_append_sep (h : sep ∉ last) :
    splitLast? sep (lead ++ sep :: last) = some (lead, last) := by
  induction lead with
  | nil => simp [splitLast?, splitLast?_eq_none_iff.mpr h]
  | cons c rest ih => simp [splitLast?, ih]

theorem sep_notMem_of_splitLast? (h : splitLast? sep cs = some (lead, last)) : sep ∉ last := by
  induction cs generalizing lead with
  | nil => simp [splitLast?] at h
  | cons c rest ih =>
    unfold splitLast? at h
    cases hrest : splitLast? sep rest with
    | some halves =>
      obtain ⟨lead', last'⟩ := halves
      obtain ⟨-, rfl⟩ : c :: lead' = lead ∧ last' = last := by simpa [hrest] using h
      exact ih hrest
    | none =>
      obtain ⟨-, -, rfl⟩ : c = sep ∧ [] = lead ∧ rest = last := by simpa [hrest] using h
      exact splitLast?_eq_none_iff.mp hrest

theorem beforeEach_of_notMem (h : sep ∉ cs) : beforeEach sep cs = [] := by
  induction cs with
  | nil => rfl
  | cons c rest ih =>
    obtain ⟨hc, hrest⟩ := not_or.mp (mt List.mem_cons.mpr h)
    simp [beforeEach, ih hrest, Ne.symm hc]

theorem beforeEach_append_sep (h : sep ∉ last) :
    beforeEach sep (lead ++ sep :: last) = lead :: beforeEach sep lead := by
  induction lead with
  | nil => simp [beforeEach, beforeEach_of_notMem h]
  | cons c rest ih => simp [beforeEach, ih]

end Pieces

variable {name upper other : String}

theorem parentName?_eq_none_iff : parentName? name = none ↔ '.' ∉ name.toList := by
  unfold parentName?
  rw [Option.map_eq_none_iff, splitLast?_eq_none_iff]

theorem parentName?_eq_some_iff :
    parentName? name = some upper ↔ ∃ last, name = upper ++ "." ++ last ∧ '.' ∉ last.toList := by
  unfold parentName?
  rw [Option.map_eq_some_iff]
  constructor
  · rintro ⟨⟨lead, last⟩, hsplit, rfl⟩
    refine ⟨String.ofList last, ?_, ?_⟩
    · rw [← String.toList_inj, splitLast?_eq_some hsplit]
      simp
    · rw [String.toList_ofList]
      exact sep_notMem_of_splitLast? hsplit
  · rintro ⟨last, rfl, hlast⟩
    refine ⟨(upper.toList, last.toList), ?_, by simp⟩
    rw [← splitLast?_append_sep hlast]
    simp

theorem components_append {last : String} (h : '.' ∉ last.toList) :
    components (upper ++ "." ++ last) = components upper ++ [last] := by
  unfold components
  have htext : (upper ++ "." ++ last).toList = upper.toList ++ '.' :: last.toList := by simp
  rw [htext, splitAt_append_sep, splitAt_of_notMem h]
  simp

theorem components_inj : components name = components other ↔ name = other := by
  constructor
  · intro h
    have hpieces : splitAt '.' name.toList = splitAt '.' other.toList := by
      simpa [components, Function.comp_def] using congrArg (List.map String.toList) h
    rw [← String.toList_inj, ← joinWith_splitAt '.' name.toList, hpieces, joinWith_splitAt]
  · rintro rfl
    rfl

theorem ancestors_of_parentName? (h : parentName? name = some upper) :
    ancestors name = upper :: ancestors upper := by
  obtain ⟨last, rfl, hlast⟩ := parentName?_eq_some_iff.mp h
  unfold ancestors
  have htext : (upper ++ "." ++ last).toList = upper.toList ++ '.' :: last.toList := by simp
  rw [htext, beforeEach_append_sep hlast]
  simp

theorem ancestors_of_parentName?_none (h : parentName? name = none) : ancestors name = [] := by
  unfold ancestors
  rw [beforeEach_of_notMem (parentName?_eq_none_iff.mp h)]
  rfl

def AtOrAbove (upper name : String) : Prop :=
  name = upper ∨ ∃ rest, name = upper ++ "." ++ rest

theorem atOrAbove_iff_components : AtOrAbove upper name ↔ components upper <+: components name := by
  have htext : AtOrAbove upper name ↔
      name.toList = upper.toList ∨ ∃ rest, name.toList = upper.toList ++ '.' :: rest := by
    unfold AtOrAbove
    rw [← String.toList_inj]
    refine or_congr_right ⟨?_, ?_⟩
    · rintro ⟨rest, rfl⟩
      exact ⟨rest.toList, by simp⟩
    · rintro ⟨rest, hrest⟩
      refine ⟨String.ofList rest, ?_⟩
      rw [← String.toList_inj, hrest]
      simp
  rw [htext, ← splitAt_isPrefix_iff]
  unfold components
  constructor
  · exact fun h => h.map String.ofList
  · intro h
    simpa [Function.comp_def] using h.map String.toList

theorem AtOrAbove.refl (name : String) : AtOrAbove name name :=
  Or.inl rfl

theorem AtOrAbove.trans (h : AtOrAbove upper name) (hname : AtOrAbove name other) :
    AtOrAbove upper other := by
  rw [atOrAbove_iff_components] at *
  exact h.trans hname

theorem AtOrAbove.total (h : AtOrAbove upper name) (hother : AtOrAbove other name) :
    AtOrAbove upper other ∨ AtOrAbove other upper := by
  simp only [atOrAbove_iff_components] at *
  exact List.prefix_or_prefix_of_prefix h hother

theorem AtOrAbove.of_parentName? (h : parentName? name = some upper) : AtOrAbove upper name := by
  obtain ⟨last, hname, -⟩ := parentName?_eq_some_iff.mp h
  exact Or.inr ⟨last, hname⟩

theorem AtOrAbove.eq_of_parentName?_none (h : AtOrAbove upper name)
    (hnone : parentName? name = none) : upper = name := by
  rcases h with rfl | ⟨rest, rfl⟩
  · rfl
  · exact absurd (parentName?_eq_none_iff.mp hnone) (by simp)

theorem AtOrAbove.eq_or_of_parentName? (h : AtOrAbove upper name)
    (hother : parentName? name = some other) : upper = name ∨ AtOrAbove upper other := by
  rcases h with rfl | ⟨rest, rfl⟩
  · exact Or.inl rfl
  · right
    obtain ⟨last, hname, hlast⟩ := parentName?_eq_some_iff.mp hother
    cases hrest : parentName? rest with
    | none =>
      have hparent : parentName? (upper ++ "." ++ rest) = some upper :=
        parentName?_eq_some_iff.mpr ⟨rest, rfl, parentName?_eq_none_iff.mp hrest⟩
      obtain rfl : upper = other := Option.some.inj (hparent.symm.trans hother)
      exact AtOrAbove.refl upper
    | some middle =>
      obtain ⟨tail, rfl, htail⟩ := parentName?_eq_some_iff.mp hrest
      have hparent : parentName? (upper ++ "." ++ (middle ++ "." ++ tail)) =
          some (upper ++ "." ++ middle) :=
        parentName?_eq_some_iff.mpr ⟨tail, by simp [String.append_assoc], htail⟩
      obtain rfl : upper ++ "." ++ middle = other := Option.some.inj (hparent.symm.trans hother)
      exact Or.inr ⟨middle, rfl⟩

/-- A set of names that holds with each the nearest above it holds all above it. -/
theorem AtOrAbove.mem_of_closed {names : List String}
    (hclosed : ∀ x ∈ names, ∀ p, parentName? x = some p → p ∈ names)
    (h : AtOrAbove upper name) (hname : name ∈ names) : upper ∈ names := by
  induction hlength : name.length using Nat.strong_induction_on generalizing name with
  | _ length ih =>
    cases hparent : parentName? name with
    | none => exact h.eq_of_parentName?_none hparent ▸ hname
    | some p =>
      rcases h.eq_or_of_parentName? hparent with rfl | h
      · exact hname
      · have hshorter := length_lt_of_parentName? hparent
        exact ih p.length (hlength ▸ hshorter) h (hclosed name hname p hparent) rfl

end SchemaForge.Text
