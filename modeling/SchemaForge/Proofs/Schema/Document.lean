import Mathlib.Data.List.Induction
import SchemaForge.Proofs.Json.Arranged
import SchemaForge.Proofs.Schema.Reachability
import SchemaForge.Schema.Document

/-! Type lists as documents. The text of a list reads as the list, in whatever order the members of
its objects stand, as long as arrays do not nest too deep for the reader; what becomes of the list
is then up to its keys alone. -/

namespace SchemaForge

def DataType.arrayDepth : DataType → Nat
  | .array element _ => element.arrayDepth + 1
  | _ => 0

namespace Document

open Json (obj arr str int arranged arrangedMembers Fits)

variable {order : Members → Members}

theorem filter_eq_lookup {members : Members} (h : (members.map Prod.fst).Nodup) (key : String) :
    members.filter (fun (k, _) => k == key) = ((members.lookup key).map (key, ·)).toList := by
  induction members with
  | nil => rfl
  | cons m rest ih =>
    obtain ⟨k, v⟩ := m
    rw [List.map_cons, List.nodup_cons] at h
    by_cases hkey : k = key
    · subst hkey
      have hnone : rest.lookup k = none := by
        rw [List.lookup_eq_none_iff]
        intro m hm
        have hne : m.1 ≠ k := fun heq => h.1 (List.mem_map.mpr ⟨m, hm, heq⟩)
        simpa using Ne.symm hne
      simp [ih h.2, hnone]
    · have hne : (key == k) = false := by simpa using Ne.symm hkey
      simp [List.lookup_cons, hne, hkey, ih h.2]

theorem mapM_map_of_forall {α β : Type} {write : α → β} {read : β → Option α} {items : List α}
    (h : ∀ a ∈ items, read (write a) = some a) : (items.map write).mapM read = some items := by
  induction items with
  | nil => rfl
  | cons a rest ih =>
    rw [List.forall_mem_cons] at h
    simp [h.1, ih h.2]

@[simp] theorem byte_toNat (b : UInt8) : byte (int b.toNat) = some b := by
  rw [byte, if_pos ⟨Int.natCast_nonneg _, Int.ofNat_lt.mpr b.toNat_lt⟩, Int.toNat_natCast,
    UInt8.ofNat_toNat]

@[simp] theorem word_toNat (n : UInt32) : word (int n.toNat) = some n := by
  rw [word, if_pos ⟨Int.natCast_nonneg _, n.toNat_lt⟩, Int.toNat_natCast, UInt32.ofNat_toNat]

theorem fits_byte {depth : Nat} {outer : Json.Shape} (b : UInt8) :
    Fits depth outer (int b.toNat) :=
  .int (Nat.lt_trans b.toNat_lt (by decide))

theorem nodup_primitiveMembers (p : Primitive) :
    ((("type", str "primitive") :: primitiveMembers p).map Prod.fst).Nodup := by
  cases p <;> simp [primitiveMembers]

def typeShape : Json.Shape :=
  (shape.member "types").elim .value (·.item 0)

section Arranged

variable (horder : Json.IsOrder order)

include horder

theorem optional_arranged {members : Members} (hnodup : (members.map Prod.fst).Nodup)
    (key : String) :
    optional (order (arrangedMembers order members)) key =
      some ((members.lookup key).map (arranged order)) := by
  have hkeys : ((arrangedMembers order members).map Prod.fst).Nodup := by
    rwa [Json.map_fst_arrangedMembers]
  have hfilter := (horder (arrangedMembers order members) hkeys).filter fun (k, _) => k == key
  rw [filter_eq_lookup hkeys, Json.lookup_arrangedMembers] at hfilter
  unfold optional
  cases hfound : members.lookup key with
  | none =>
    rw [hfound] at hfilter
    rw [List.perm_nil.mp hfilter]
    rfl
  | some v =>
    rw [hfound] at hfilter
    rw [List.perm_singleton.mp hfilter]
    rfl

theorem required_arranged {members : Members} (hnodup : (members.map Prod.fst).Nodup)
    (key : String) :
    required (order (arrangedMembers order members)) key =
      (members.lookup key).map (arranged order) := by
  simp [required, optional_arranged horder hnodup]

theorem toVersion_ofVersion (v : Version) : toVersion ((ofVersion v).arranged order) = some v := by
  simp [ofVersion, arranged, toVersion, fields, required_arranged horder, List.lookup_cons]

theorem toKey_ofKey (k : TypeKey) : toKey ((ofKey k).arranged order) = some k := by
  simp [ofKey, arranged, toKey, fields, required_arranged horder, List.lookup_cons,
    toVersion_ofVersion horder, Json.str?]

theorem capacity_ofCapacity (c : Capacity) : capacity ((ofCapacity c).arranged order) = some c := by
  have hone : ∀ m, order [m] = [m] := fun m => List.perm_singleton.mp (horder [m] (by simp))
  cases c <;> simp [ofCapacity, arranged, arrangedMembers, hone, capacity]

theorem primitiveOfMembers_arranged (tag : Json) (p : Primitive) :
    primitiveOfMembers (order (arrangedMembers order (("type", tag) :: primitiveMembers p))) =
      some p := by
  cases p <;>
    simp [primitiveMembers, primitiveOfMembers, arranged, required_arranged horder,
      List.lookup_cons, variant, primitiveNames, sizedPrimitive]

theorem dataType_ofDataType (t : DataType) {depth : Nat} (h : t.arrayDepth < depth)
    (nested : Bool) : dataType depth nested ((ofDataType t).arranged order) = some t := by
  induction t generalizing depth nested with
  | primitive p =>
    obtain ⟨depth, rfl⟩ : ∃ less, depth = less + 1 := ⟨depth - 1, by omega⟩
    simp [ofDataType, arranged, dataType, required_arranged horder (nodup_primitiveMembers p),
      variant, dataTypeNames, primitiveOfMembers_arranged horder]
  | array element c ih =>
    obtain ⟨depth, rfl⟩ : ∃ less, depth = less + 1 := ⟨depth - 1, by omega⟩
    rw [DataType.arrayDepth, Nat.add_lt_add_iff_right] at h
    simp [ofDataType, arranged, dataType, required_arranged horder, List.lookup_cons, variant,
      dataTypeNames, capacity_ofCapacity horder, ih h]
  | composite key =>
    obtain ⟨depth, rfl⟩ : ∃ less, depth = less + 1 := ⟨depth - 1, by omega⟩
    simp [ofDataType, arranged, dataType, required_arranged horder, List.lookup_cons, variant,
      dataTypeNames, toVersion_ofVersion horder, Json.str?]

theorem toAttribute_ofAttribute (a : Attribute) (h : a.dataType.arrayDepth < Json.depthLimit) :
    toAttribute ((ofAttribute a).arranged order) = some a := by
  obtain ⟨name, kind, dataType⟩ := a
  cases kind <;>
    simp [ofAttribute, arranged, toAttribute, attributeKindMembers, attributeKind,
      optional_arranged horder, required_arranged horder, List.lookup_cons, variant,
      dataType_ofDataType horder _ h, Json.str?]

theorem toType_ofType (t : CompositeType)
    (h : ∀ a ∈ t.attributes, a.dataType.arrayDepth < Json.depthLimit) :
    toType ((ofType t).arranged order) = some t := by
  obtain ⟨name, version, kind, attributes, parent, deprecated⟩ := t
  have hattributes : attributes.mapM (toAttribute ∘ arranged order ∘ ofAttribute) =
      some attributes := by
    rw [← List.mapM_map]
    exact mapM_map_of_forall fun a ha => toAttribute_ofAttribute horder a (h a ha)
  cases parent with
  | none =>
    cases kind <;>
      simp [ofType, arranged, toType, kindMembers, compositeKind, optional_arranged horder,
        required_arranged horder, List.lookup_cons, variant, toKey_ofKey horder,
        toVersion_ofVersion horder, Json.arrangedItems_eq_map, Json.str?, Json.bool?, Json.ofOption,
        hattributes]
  | some key =>
    obtain ⟨members, hobj⟩ : ∃ members, (ofKey key).arranged order = obj members := ⟨_, rfl⟩
    have hkey := toKey_ofKey horder key
    rw [hobj] at hkey
    cases kind <;>
      simp [ofType, arranged, toType, kindMembers, compositeKind, optional_arranged horder,
        required_arranged horder, List.lookup_cons, variant, toKey_ofKey horder,
        toVersion_ofVersion horder, Json.arrangedItems_eq_map, Json.str?, Json.bool?, Json.ofOption,
        hattributes, hobj, hkey]

theorem toTypes_ofTypes (types : List CompositeType)
    (h : ∀ t ∈ types, ∀ a ∈ t.attributes, a.dataType.arrayDepth < Json.depthLimit) :
    toTypes ((ofTypes types).arranged order) = some types := by
  have htypes : types.mapM (toType ∘ arranged order ∘ ofType) = some types := by
    rw [← List.mapM_map]
    exact mapM_map_of_forall fun t ht => toType_ofType horder t (h t ht)
  simp [ofTypes, arranged, toTypes, fields, required_arranged horder, Json.arrangedItems_eq_map,
    htypes]

section Fitting

variable {depth : Nat} {outer inner : Json.Shape}

theorem fits_ofVersion (v : Version) (hmajor : (outer.member "major").isSome)
    (hminor : (outer.member "minor").isSome) :
    Fits (depth + 1) outer ((ofVersion v).arranged order) := by
  obtain ⟨_, hmajor⟩ := Option.isSome_iff_exists.mp hmajor
  obtain ⟨_, hminor⟩ := Option.isSome_iff_exists.mp hminor
  apply Json.fits_obj horder (by simp)
  rw [List.forall_mem_cons, List.forall_mem_singleton]
  exact ⟨⟨_, hmajor, fits_byte v.major⟩, ⟨_, hminor, fits_byte v.minor⟩⟩

theorem fits_ofKey (k : TypeKey) (hname : (outer.member "full_name").isSome)
    (hversion : outer.member "version" = some inner) (hmajor : (inner.member "major").isSome)
    (hminor : (inner.member "minor").isSome) :
    Fits (depth + 2) outer ((ofKey k).arranged order) := by
  obtain ⟨_, hname⟩ := Option.isSome_iff_exists.mp hname
  apply Json.fits_obj horder (by simp)
  rw [List.forall_mem_cons, List.forall_mem_singleton]
  exact ⟨⟨_, hname, .str _⟩, ⟨_, hversion, fits_ofVersion horder k.version hmajor hminor⟩⟩

theorem fits_ofCapacity (c : Capacity) :
    Fits (depth + 1) .value ((ofCapacity c).arranged order) := by
  have hword : ∀ n : UInt32, Fits depth .value (int n.toNat) := fun n =>
    .int (Nat.lt_trans n.toNat_lt (by decide))
  cases c with
  | fixed n => exact Json.fits_obj_value horder (by simp) (List.forall_mem_singleton.mpr (hword n))
  | upTo n => exact Json.fits_obj_value horder (by simp) (List.forall_mem_singleton.mpr (hword n))

theorem fits_ofDataType {t : DataType} {nesting : Nat} (h : t.arrayDepth ≤ nesting) :
    Fits (nesting + 2) .value ((ofDataType t).arranged order) := by
  induction t generalizing nesting with
  | primitive p =>
    apply Json.fits_obj_value horder (nodup_primitiveMembers p)
    cases p <;> simp [primitiveMembers, arranged, Fits.str, fits_byte]
  | array element c ih =>
    rw [DataType.arrayDepth] at h
    obtain ⟨nesting, rfl⟩ : ∃ less, nesting = less + 1 := ⟨nesting - 1, by omega⟩
    apply Json.fits_obj_value horder (by simp)
    simp only [List.forall_mem_cons]
    exact ⟨.str _, ih (by omega), fits_ofCapacity horder c, by simp⟩
  | composite key =>
    apply Json.fits_obj_value horder (by simp)
    simp only [List.forall_mem_cons]
    exact ⟨.str _, .str _, fits_ofVersion horder key.version rfl rfl, by simp⟩

theorem fits_ofAttribute {a : Attribute} {nesting : Nat} (h : a.dataType.arrayDepth ≤ nesting) :
    Fits (nesting + 3) .value ((ofAttribute a).arranged order) := by
  have hdata := fits_ofDataType horder h
  apply Json.fits_obj_value horder
  · cases a.kind <;> simp [attributeKindMembers]
  · cases a.kind <;> simp [attributeKindMembers, arranged, Fits.str, hdata]

theorem fits_kindMembers (kind : CompositeKind) :
    ∀ m ∈ kindMembers kind, ∃ inner, typeShape.member m.1 = some inner ∧
      Fits (depth + 2) inner (m.2.arranged order) := by
  cases kind with
  | struct =>
    rw [kindMembers, List.forall_mem_singleton]
    exact ⟨.value, rfl, .str _⟩
  | union =>
    rw [kindMembers, List.forall_mem_singleton]
    exact ⟨.value, rfl, .str _⟩
  | service request response =>
    rw [kindMembers, List.forall_mem_cons, List.forall_mem_cons, List.forall_mem_singleton]
    exact ⟨⟨.value, rfl, .str _⟩, ⟨.value, rfl, fits_ofKey horder request rfl rfl rfl rfl⟩,
      ⟨.value, rfl, fits_ofKey horder response rfl rfl rfl rfl⟩⟩

theorem fits_ofType {t : CompositeType} {nesting : Nat}
    (h : ∀ a ∈ t.attributes, a.dataType.arrayDepth ≤ nesting) :
    Fits (nesting + 5) typeShape ((ofType t).arranged order) := by
  have hattributes : Fits (nesting + 4) .value
      ((arr (t.attributes.map ofAttribute)).arranged order) := by
    refine Json.fits_arr (fun i => rfl) fun v hv => ?_
    obtain ⟨a, ha, rfl⟩ := List.mem_map.mp hv
    exact fits_ofAttribute horder (h a ha)
  have hparent : ∃ inner, typeShape.member "parent_service" = some inner ∧
      Fits (nesting + 4) inner ((Json.ofOption ofKey t.parentService).arranged order) := by
    refine ⟨_, rfl, ?_⟩
    cases t.parentService with
    | none => exact .null
    | some key => exact fits_ofKey horder key rfl rfl rfl rfl
  apply Json.fits_obj horder
  · cases t.kind <;> simp [kindMembers]
  · simp only [List.forall_mem_append, List.forall_mem_cons]
    exact ⟨⟨⟨.value, rfl, .str _⟩, ⟨_, rfl, fits_ofVersion horder t.version rfl rfl⟩,
      fits_kindMembers horder t.kind⟩, ⟨.value, rfl, hattributes⟩, hparent,
      ⟨.value, rfl, .bool _⟩, by simp⟩

theorem fits_ofTypes {types : List CompositeType} {nesting : Nat}
    (h : ∀ t ∈ types, ∀ a ∈ t.attributes, a.dataType.arrayDepth ≤ nesting) :
    Fits (nesting + 7) shape ((ofTypes types).arranged order) := by
  apply Json.fits_obj horder (by simp)
  rw [List.forall_mem_singleton]
  refine ⟨_, rfl, Json.fits_arr (fun i => rfl) fun v hv => ?_⟩
  obtain ⟨t, ht, rfl⟩ := List.mem_map.mp hv
  exact fits_ofType horder (h t ht)

end Fitting

/-- What a type list in a text comes to is what the list itself comes to. -/
theorem readCatalog_ofTypes {types : List CompositeType}
    (h : ∀ t ∈ types, ∀ a ∈ t.attributes, a.dataType.arrayDepth ≤ 120) :
    readCatalog (Json.print ((ofTypes types).arranged order)) = Catalog.ofTypes types := by
  have hfits : Fits (Json.depthLimit - 1) shape ((ofTypes types).arranged order) :=
    fits_ofTypes horder h
  have htypes : toTypes ((ofTypes types).arranged order) = some types := by
    apply toTypes_ofTypes horder
    intro t ht a ha
    exact Nat.lt_of_le_of_lt (h t ht a ha) (by decide)
  rw [readCatalog, Json.parseAs_print hfits]
  dsimp only
  rw [htypes]

end Arranged

end Document

namespace Catalog

variable {c : Catalog} {t : CompositeType} {types : List CompositeType}

theorem insert_of_mem (h : t.key ∈ c.types.map (·.key)) :
    c.insert t = .error (.duplicate t.key) := by
  rw [insert, dif_pos h]

theorem exists_insert (h : t.key ∉ c.types.map (·.key)) :
    ∃ c', c.insert t = .ok c' ∧ c'.types = c.types ++ [t] := by
  rw [insert, dif_neg h]
  exact ⟨_, rfl, rfl⟩

theorem exists_foldlM_insert (h : ((c.types ++ types).map (·.key)).Nodup) :
    ∃ c', types.foldlM insert c = .ok c' ∧ c'.types = c.types ++ types := by
  induction types generalizing c with
  | nil => exact ⟨c, rfl, by simp⟩
  | cons t rest ih =>
    have hnew : t.key ∉ c.types.map (·.key) := by
      rw [List.map_append, List.map_cons, List.nodup_middle, List.nodup_cons] at h
      exact fun hmem => h.1 (List.mem_append_left _ hmem)
    obtain ⟨next, hinsert, htypes⟩ := exists_insert hnew
    obtain ⟨last, hrest, hlast⟩ := @ih next (by simpa [htypes] using h)
    refine ⟨last, ?_, by simp [hlast, htypes]⟩
    rw [List.foldlM_cons, hinsert]
    exact hrest

theorem exists_ofTypes (h : (types.map (·.key)).Nodup) :
    ∃ c, ofTypes types = .ok c ∧ c.types = types :=
  exists_foldlM_insert (c := {}) h

theorem ofTypes_append_of_mem {before after : List CompositeType}
    (hbefore : (before.map (·.key)).Nodup) (h : t.key ∈ before.map (·.key)) :
    ofTypes (before ++ t :: after) = .error (.duplicate t.key) := by
  obtain ⟨c, hc, htypes⟩ := exists_ofTypes hbefore
  have hinsert : c.insert t = .error (.duplicate t.key) := insert_of_mem (htypes ▸ h)
  rw [ofTypes] at hc ⊢
  rw [List.foldlM_append, hc]
  change (t :: after).foldlM insert c = _
  rw [List.foldlM_cons, hinsert]
  rfl

theorem exists_first_repeated (h : ¬ (types.map (·.key)).Nodup) :
    ∃ before t after, types = before ++ t :: after ∧ (before.map (·.key)).Nodup ∧
      t.key ∈ before.map (·.key) := by
  induction types using List.reverseRecOn with
  | nil => simp at h
  | append_singleton before t ih =>
    by_cases hbefore : (before.map (·.key)).Nodup
    · refine ⟨before, t, [], rfl, hbefore, ?_⟩
      by_contra hnew
      apply h
      rw [List.map_append, List.map_singleton, List.nodup_middle, List.append_nil, List.nodup_cons]
      exact ⟨hnew, hbefore⟩
    · obtain ⟨first, repeated, after, rfl, hfirst, hmem⟩ := ih hbefore
      exact ⟨first, repeated, after ++ [t], by simp, hfirst, hmem⟩

end Catalog

namespace Document

/-- A list with distinct keys comes back from its text in its order and with all its fields, and
every type of it is found by its key. A list that repeats a key is refused, and the key named is
that of the first type that repeats one. -/
theorem readCatalog_print (types : List CompositeType) :
    ((types.map (·.key)).Nodup →
      (∀ t ∈ types, ∀ a ∈ t.attributes, a.dataType.arrayDepth ≤ 100) →
      ∀ order, Json.IsOrder order →
        ∃ catalog, readCatalog (Json.print ((ofTypes types).arranged order)) = .ok catalog ∧
          catalog.types = types ∧
          ∀ key t, catalog.get? key = some t ↔ t ∈ types ∧ t.key = key) ∧
    (¬ (types.map (·.key)).Nodup →
      ∃ before t after, types = before ++ t :: after ∧ (before.map (·.key)).Nodup ∧
        t.key ∈ before.map (·.key) ∧ Catalog.ofTypes types = .error (.duplicate t.key)) := by
  constructor
  · intro hnodup hdepth order horder
    obtain ⟨catalog, hcatalog, htypes⟩ := Catalog.exists_ofTypes hnodup
    have hread := readCatalog_ofTypes horder fun t ht a ha => (hdepth t ht a ha).trans (by decide)
    refine ⟨catalog, ?_, htypes, fun key t => ?_⟩
    · rw [hread, hcatalog]
    · rw [Catalog.get?_eq_some_iff, htypes]
  · intro hrepeated
    obtain ⟨before, t, after, htypes, hbefore, hmem⟩ := Catalog.exists_first_repeated hrepeated
    refine ⟨before, t, after, htypes, hbefore, hmem, ?_⟩
    rw [htypes]
    exact Catalog.ofTypes_append_of_mem hbefore hmem

/-- A type with nested arrays and a service come back; a list with one of them twice does not. -/
theorem readCatalog_print_nested :
    let grid : CompositeType := {
      fullName := "a.Grid", version := ⟨1, 0⟩, kind := .struct
      attributes := [⟨"size", .constant "3", .primitive (.unsigned 8)⟩,
        ⟨"cells", .field, .array (.array (.composite ⟨"a.Cell", ⟨0, 1⟩⟩) (.fixed 3)) (.upTo 3)⟩] }
    let call : CompositeType := {
      fullName := "a.Call", version := ⟨1, 0⟩
      kind := .service ⟨"a.Call.Request", ⟨1, 0⟩⟩ ⟨"a.Call.Response", ⟨1, 0⟩⟩ }
    (∃ catalog, readCatalog (Json.print (ofTypes [grid, call])) = .ok catalog ∧
        catalog.types = [grid, call] ∧ catalog.get? call.key = some call) ∧
      (∃ catalog, readCatalog (Json.print (ofTypes [grid, call]).sorted) = .ok catalog ∧
        catalog.types = [grid, call]) ∧
      ∃ before t after, [grid, call, grid] = before ++ t :: after ∧ t.key ∈ before.map (·.key) ∧
        Catalog.ofTypes [grid, call, grid] = .error (.duplicate t.key) := by
  intro grid call
  have hlist := (readCatalog_print [grid, call]).1 (by decide) (by decide)
  obtain ⟨catalog, hread, htypes, hget⟩ := hlist id Json.isOrder_id
  obtain ⟨catalog', hread', htypes', -⟩ := hlist Json.inKeyOrder Json.isOrder_inKeyOrder
  rw [Json.arranged_id] at hread
  rw [Json.arranged_inKeyOrder] at hread'
  obtain ⟨before, t, after, hrepeated, -, hmem, hrefused⟩ :=
    (readCatalog_print [grid, call, grid]).2 (by decide)
  exact ⟨⟨catalog, hread, htypes, (hget call.key call).mpr ⟨by simp, rfl⟩⟩,
    ⟨catalog', hread', htypes'⟩, before, t, after, hrepeated, hmem, hrefused⟩

end Document

end SchemaForge
