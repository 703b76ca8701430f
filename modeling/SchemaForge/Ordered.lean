/-! Lists that stand for sets: their elements are in strict order, so each is listed once. -/

namespace SchemaForge.Ordered

variable {α : Type} [DecidableEq α]

/-- Adds an element where the order wants it, unless it is there. -/
def insert (before : α → α → Bool) (a : α) : List α → List α
  | [] => [a]
  | b :: rest =>
    if a = b then b :: rest
    else if before a b then a :: b :: rest
    else b :: insert before a rest

def ofList (before : α → α → Bool) (items : List α) : List α :=
  items.foldl (fun sorted a => insert before a sorted) []

def byText (s t : String) : Bool :=
  decide (s < t)

theorem mem_insert {before : α → α → Bool} {a x : α} {items : List α} :
    x ∈ insert before a items ↔ x = a ∨ x ∈ items := by
  induction items with
  | nil => simp [insert]
  | cons b rest ih =>
    unfold insert
    by_cases h : a = b
    · subst h
      simp
    · by_cases hb : before a b
      · simp [h, hb]
      · simp only [h, hb, Bool.false_eq_true, if_false, List.mem_cons, ih]
        exact or_left_comm

theorem pairwise_insert {before : α → α → Bool}
    (htrans : ∀ a b c, before a b = true → before b c = true → before a c = true)
    (htotal : ∀ a b, a ≠ b → before a b = false → before b a = true) (a : α) {items : List α}
    (h : items.Pairwise (before · · = true)) :
    (insert before a items).Pairwise (before · · = true) := by
  induction items with
  | nil => exact List.pairwise_singleton _ a
  | cons b rest ih =>
    obtain ⟨hb, hrest⟩ := List.pairwise_cons.mp h
    unfold insert
    by_cases hab : a = b
    · rw [if_pos hab]
      exact h
    · rw [if_neg hab]
      by_cases hbefore : before a b = true
      · rw [if_pos hbefore]
        refine List.pairwise_cons.mpr ⟨?_, h⟩
        intro x hx
        rcases List.mem_cons.mp hx with rfl | hx
        · exact hbefore
        · exact htrans a b x hbefore (hb x hx)
      · rw [if_neg hbefore]
        refine List.pairwise_cons.mpr ⟨?_, ih hrest⟩
        intro x hx
        rcases mem_insert.mp hx with rfl | hx
        · exact htotal x b hab (Bool.not_eq_true _ ▸ hbefore)
        · exact hb x hx

theorem mem_ofList {before : α → α → Bool} {x : α} {items : List α} :
    x ∈ ofList before items ↔ x ∈ items := by
  have hfold : ∀ sorted, x ∈ items.foldl (fun sorted a => insert before a sorted) sorted ↔
      x ∈ sorted ∨ x ∈ items := by
    induction items with
    | nil => simp
    | cons a rest ih =>
      intro sorted
      rw [List.foldl_cons, ih, mem_insert, List.mem_cons, or_assoc]
      exact or_left_comm
  simpa [ofList] using hfold []

theorem pairwise_ofList {before : α → α → Bool}
    (htrans : ∀ a b c, before a b = true → before b c = true → before a c = true)
    (htotal : ∀ a b, a ≠ b → before a b = false → before b a = true) (items : List α) :
    (ofList before items).Pairwise (before · · = true) := by
  have hfold : ∀ sorted : List α, sorted.Pairwise (before · · = true) →
      (items.foldl (fun sorted a => insert before a sorted) sorted).Pairwise
        (before · · = true) := by
    induction items with
    | nil => exact fun sorted h => h
    | cons a rest ih =>
      intro sorted h
      exact ih _ (pairwise_insert htrans htotal a h)
  exact hfold [] List.Pairwise.nil

theorem byText_trans (s t u : String) (hst : byText s t = true) (htu : byText t u = true) :
    byText s u = true := by
  simp only [byText, decide_eq_true_eq] at *
  exact String.lt_trans hst htu

theorem byText_total (s t : String) (hne : s ≠ t) (h : byText s t = false) :
    byText t s = true := by
  simp only [byText, decide_eq_true_eq, decide_eq_false_iff_not] at *
  exact String.not_le.mp fun hle => hne (String.le_antisymm hle (String.not_lt.mp h))

end SchemaForge.Ordered
