import Mathlib.Data.List.Perm.Basic
import SchemaForge.Proofs.Json.RoundTrip

/-! Values whose objects have their members in another order. The order in which a value is written
and the order of the keys are two of them; whether a value can be read back does not depend on the
order. -/

namespace SchemaForge.Json

section Arranging

variable (order : List (String × Json) → List (String × Json))

mutual

def arranged : Json → Json
  | arr items => arr (arrangedItems items)
  | obj members => obj (order (arrangedMembers members))
  | null => null
  | bool b => bool b
  | int n => int n
  | real x => real x
  | str s => str s

def arrangedItems : List Json → List Json
  | [] => []
  | v :: rest => arranged v :: arrangedItems rest

def arrangedMembers : List (String × Json) → List (String × Json)
  | [] => []
  | (k, v) :: rest => (k, arranged v) :: arrangedMembers rest

end

theorem arrangedItems_eq_map (items : List Json) :
    arrangedItems order items = items.map (arranged order) := by
  induction items with
  | nil => rfl
  | cons v rest ih => rw [arrangedItems, ih, List.map_cons]

theorem arrangedMembers_eq_map (members : List (String × Json)) :
    arrangedMembers order members = members.map fun m => (m.1, arranged order m.2) := by
  induction members with
  | nil => rfl
  | cons m rest ih => rw [arrangedMembers, ih, List.map_cons]

theorem map_fst_arrangedMembers (members : List (String × Json)) :
    (arrangedMembers order members).map Prod.fst = members.map Prod.fst := by
  rw [arrangedMembers_eq_map, List.map_map]
  rfl

def IsOrder : Prop :=
  ∀ members : List (String × Json), (members.map Prod.fst).Nodup → (order members).Perm members

end Arranging

section Orders

theorem isOrder_id : IsOrder id :=
  fun members _ => List.Perm.refl members

mutual

@[simp] theorem arranged_id : ∀ v : Json, arranged id v = v
  | arr items => by rw [arranged, arrangedItems_id]
  | obj members => by rw [arranged, arrangedMembers_id, id]
  | null => rfl
  | bool _ => rfl
  | int _ => rfl
  | real _ => rfl
  | str _ => rfl

theorem arrangedItems_id : ∀ items : List Json, arrangedItems id items = items
  | [] => rfl
  | v :: rest => by rw [arrangedItems, arranged_id, arrangedItems_id]

theorem arrangedMembers_id : ∀ members : List (String × Json), arrangedMembers id members = members
  | [] => rfl
  | (k, v) :: rest => by rw [arrangedMembers, arranged_id, arrangedMembers_id]

end

def inKeyOrder (members : List (String × Json)) : List (String × Json) :=
  members.foldl (fun acc m => insertSorted m.1 m.2 acc) []

mutual

theorem arranged_inKeyOrder : ∀ v : Json, arranged inKeyOrder v = v.sorted
  | arr items => by rw [arranged, sorted, arrangedItems_inKeyOrder]
  | obj members => by rw [arranged, sorted, inKeyOrder, foldl_arrangedMembers]
  | null => rfl
  | bool _ => rfl
  | int _ => rfl
  | real _ => rfl
  | str _ => rfl

theorem arrangedItems_inKeyOrder : ∀ items : List Json,
    arrangedItems inKeyOrder items = sortedItems items
  | [] => rfl
  | v :: rest => by rw [arrangedItems, sortedItems, arranged_inKeyOrder, arrangedItems_inKeyOrder]

theorem foldl_arrangedMembers : ∀ members acc : List (String × Json),
    (arrangedMembers inKeyOrder members).foldl (fun acc m => insertSorted m.1 m.2 acc) acc =
      sortedMembers members acc
  | [], acc => rfl
  | (k, v) :: rest, acc => by
    rw [arrangedMembers, List.foldl_cons, arranged_inKeyOrder, foldl_arrangedMembers, sortedMembers]

end

theorem sorted_arr (items : List Json) : (arr items).sorted = arr (items.map sorted) := by
  rw [← arranged_inKeyOrder, arranged, arrangedItems_eq_map, funext arranged_inKeyOrder]

theorem sorted_strings (items : List String) : (strings items).sorted = strings items := by
  rw [strings, sorted_arr, List.map_map]
  rfl

theorem perm_insertSorted {key : String} {members : List (String × Json)}
    (h : key ∉ members.map Prod.fst) (value : Json) :
    (insertSorted key value members).Perm ((key, value) :: members) := by
  induction members with
  | nil => exact List.Perm.refl _
  | cons m rest ih =>
    obtain ⟨k, v⟩ := m
    rw [List.map_cons, List.mem_cons, not_or] at h
    have hne : (key == k) = false := by simpa using h.1
    rw [insertSorted, hne]
    split
    · exact List.Perm.refl _
    · exact ((ih h.2).cons (k, v)).trans (List.Perm.swap _ _ rest)

theorem perm_foldl_insertSorted {members acc : List (String × Json)}
    (h : ((members ++ acc).map Prod.fst).Nodup) :
    (members.foldl (fun acc m => insertSorted m.1 m.2 acc) acc).Perm (members ++ acc) := by
  induction members generalizing acc with
  | nil => exact List.Perm.refl acc
  | cons m rest ih =>
    rw [List.cons_append, List.map_cons, List.nodup_cons] at h
    have hnew : m.1 ∉ acc.map Prod.fst := by
      intro hm
      apply h.1
      rw [List.map_append]
      exact List.mem_append_right _ hm
    have hmiddle : (rest ++ insertSorted m.1 m.2 acc).Perm (m :: (rest ++ acc)) :=
      ((perm_insertSorted hnew m.2).append_left rest).trans List.perm_middle
    refine (ih ?_).trans hmiddle
    rw [(hmiddle.map Prod.fst).nodup_iff]
    exact List.nodup_cons.mpr h

theorem isOrder_inKeyOrder : IsOrder inKeyOrder := by
  intro members h
  have hfold := @perm_foldl_insertSorted members [] (by rwa [List.append_nil])
  rwa [List.append_nil] at hfold

end Orders

section Lookup

variable {members members' : List (String × Json)} {key : String}

theorem lookup_eq_some_iff (h : (members.map Prod.fst).Nodup) {v : Json} :
    members.lookup key = some v ↔ (key, v) ∈ members := by
  induction members with
  | nil => simp
  | cons m rest ih =>
    obtain ⟨k, w⟩ := m
    rw [List.map_cons, List.nodup_cons] at h
    by_cases hkey : key = k
    · subst hkey
      have hnone : (key, v) ∉ rest := fun hmem => h.1 (List.mem_map.mpr ⟨_, hmem, rfl⟩)
      simp [hnone, eq_comm]
    · have hne : (key == k) = false := beq_eq_false_iff_ne.mpr hkey
      simp [List.lookup_cons, hne, hkey, ih h.2]

theorem lookup_of_perm (h : members.Perm members') (hnodup : (members'.map Prod.fst).Nodup)
    (key : String) : members.lookup key = members'.lookup key := by
  apply Option.ext
  intro v
  rw [lookup_eq_some_iff hnodup, lookup_eq_some_iff ((h.map Prod.fst).nodup_iff.mpr hnodup),
    h.mem_iff]

theorem lookup_arrangedMembers (order : List (String × Json) → List (String × Json))
    (members : List (String × Json)) (key : String) :
    (arrangedMembers order members).lookup key = (members.lookup key).map (arranged order) := by
  induction members with
  | nil => rfl
  | cons m rest ih =>
    rw [arrangedMembers, List.lookup_cons, List.lookup_cons, ih]
    split <;> rfl

theorem exists_sorted_obj (h : (members.map Prod.fst).Nodup) : ∃ members',
    (obj members).sorted = obj members' ∧ (members'.map Prod.fst).Nodup ∧
      ∀ key, members'.lookup key = (members.lookup key).map sorted := by
  have hkeys : ((arrangedMembers inKeyOrder members).map Prod.fst).Nodup := by
    rwa [map_fst_arrangedMembers]
  have hperm := isOrder_inKeyOrder _ hkeys
  refine ⟨inKeyOrder (arrangedMembers inKeyOrder members), ?_, ?_, fun key => ?_⟩
  · rw [← arranged_inKeyOrder, arranged]
  · rwa [(hperm.map Prod.fst).nodup_iff]
  · rw [lookup_of_perm hperm hkeys, lookup_arrangedMembers, funext arranged_inKeyOrder]

end Lookup

variable {order : List (String × Json) → List (String × Json)} {depth : Nat} {shape : Shape}

theorem fits_arr {items : List Json} {inner : Shape} (hitem : ∀ i, shape.item i = inner)
    (h : ∀ v ∈ items, Fits depth inner (arranged order v)) :
    Fits (depth + 1) shape (arranged order (arr items)) := by
  rw [arranged, arrangedItems_eq_map]
  refine .arr fun i v hv => ?_
  rw [List.getElem?_map, Option.map_eq_some_iff] at hv
  obtain ⟨source, hsource, rfl⟩ := hv
  rw [hitem]
  exact h source (List.mem_of_getElem? hsource)

theorem fits_obj (horder : IsOrder order) {members : List (String × Json)}
    (hnodup : (members.map Prod.fst).Nodup)
    (h : ∀ m ∈ members, ∃ inner, shape.member m.1 = some inner ∧
      Fits depth inner (arranged order m.2)) :
    Fits (depth + 1) shape (arranged order (obj members)) := by
  have hperm := horder (arrangedMembers order members) (by rwa [map_fst_arrangedMembers])
  have hmem : ∀ m ∈ order (arrangedMembers order members),
      ∃ inner, shape.member m.1 = some inner ∧ Fits depth inner m.2 := by
    intro m hm
    rw [hperm.mem_iff, arrangedMembers_eq_map, List.mem_map] at hm
    obtain ⟨source, hsource, rfl⟩ := hm
    exact h source hsource
  rw [arranged]
  refine .obj (fun m hm => ?_) (fun m hm s hs => ?_)
  · obtain ⟨inner, hinner, -⟩ := hmem m hm
    simp [hinner]
  · obtain ⟨inner, hinner, hfits⟩ := hmem m hm
    rw [hinner, Option.some.injEq] at hs
    exact hs ▸ hfits

theorem fits_obj_value (horder : IsOrder order) {members : List (String × Json)}
    (hnodup : (members.map Prod.fst).Nodup)
    (h : ∀ m ∈ members, Fits depth .value (arranged order m.2)) :
    Fits (depth + 1) .value (arranged order (obj members)) :=
  fits_obj horder hnodup fun m hm => ⟨.value, rfl, h m hm⟩

end SchemaForge.Json
