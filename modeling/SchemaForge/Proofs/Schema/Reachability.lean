import Mathlib.Data.List.Nodup
import Mathlib.Data.List.Sort
import Mathlib.Tactic.Common
import SchemaForge.Schema.Dependencies

/-! Transitive dependencies are exactly what can be reached. The search in depth keeps one
invariant: whatever a type relies on whose key has been found is found too or still waits. When
nothing waits any more, the keys found are closed under references, and no smaller set is. -/

namespace SchemaForge

inductive Feature where
  | integer
  | float
  | bool
  | array
  | variableArray
  | primitiveArray
  | union
deriving Repr, DecidableEq

inductive Need where
  | type (key : TypeKey)
  | feature (f : Feature)
deriving Repr, DecidableEq

namespace Dependencies

def uses (d : Dependencies) : Feature → Bool
  | .integer => d.integer
  | .float => d.float
  | .bool => d.bool
  | .array => d.array
  | .variableArray => d.variableArray
  | .primitiveArray => d.primitiveArray
  | .union => d.union

def Tells (d : Dependencies) : Need → Prop
  | .type key => key ∈ d.types
  | .feature f => d.uses f = true

@[simp] theorem tells_type {d : Dependencies} {key : TypeKey} :
    d.Tells (.type key) ↔ key ∈ d.types := Iff.rfl

@[simp] theorem tells_feature {d : Dependencies} {f : Feature} :
    d.Tells (.feature f) ↔ d.uses f = true := Iff.rfl

theorem not_tells_empty (n : Need) : ¬ ({} : Dependencies).Tells n := by
  rcases n with key | f
  · simp
  · cases f <;> simp [uses]

end Dependencies

def DataType.Needs (dt : DataType) (n : Need) : Prop :=
  (({} : Dependencies).addDataType dt).Tells n

/-- A data type refers to a key if it is that type or an array of elements that refer to it. -/
inductive DataType.Refers : DataType → TypeKey → Prop where
  | composite (key : TypeKey) : Refers (.composite key) key
  | element {element : DataType} {key : TypeKey} (capacity : Capacity) (h : Refers element key) :
      Refers (.array element capacity) key

/-- A feature of a data type is one of its own or of its elements. -/
inductive DataType.HasFeature : DataType → Feature → Prop where
  | signed (bits : UInt8) : HasFeature (.primitive (.signed bits)) .integer
  | unsigned (bits : UInt8) : HasFeature (.primitive (.unsigned bits)) .integer
  | float (bits : UInt8) : HasFeature (.primitive (.float bits)) .float
  | boolean : HasFeature (.primitive .boolean) .bool
  | fixed (element : DataType) (size : UInt32) : HasFeature (.array element (.fixed size)) .array
  | primitives (p : Primitive) (size : UInt32) :
      HasFeature (.array (.primitive p) (.fixed size)) .primitiveArray
  | variable (element : DataType) (bound : UInt32) :
      HasFeature (.array element (.upTo bound)) .variableArray
  | element {element : DataType} {f : Feature} (capacity : Capacity) (h : HasFeature element f) :
      HasFeature (.array element capacity) f

namespace Dependencies

variable {d : Dependencies} {n : Need}

theorem tells_addPrimitive (p : Primitive) :
    (d.addPrimitive p).Tells n ↔ d.Tells n ∨ (({} : Dependencies).addPrimitive p).Tells n := by
  rcases n with key | f
  · simp
  · cases p <;> cases f <;> simp [addPrimitive, uses]

theorem tells_addCapacity (element : DataType) (capacity : Capacity) :
    (d.addCapacity element capacity).Tells n ↔
      d.Tells n ∨ (({} : Dependencies).addCapacity element capacity).Tells n := by
  rcases n with key | f
  · simp
  · cases capacity <;> cases f <;> simp [addCapacity, uses]

theorem tells_addKey (key : TypeKey) : (d.addKey key).Tells n ↔ d.Tells n ∨ n = .type key := by
  rcases n with other | f
  · simp [TypeKey.mem_insertSorted, or_comm]
  · cases f <;> simp [addKey, uses]

theorem tells_addUnion (t : CompositeType) :
    (d.addUnion t).Tells n ↔
      d.Tells n ∨ t.isUnion = true ∧ (n = .feature .integer ∨ n = .feature .union) := by
  unfold addUnion
  split
  · rename_i hunion
    rcases n with key | f
    · simp
    · cases f <;> simp [uses, hunion]
  · rename_i hunion
    simp [hunion]

theorem tells_addDataType (dt : DataType) :
    (d.addDataType dt).Tells n ↔ d.Tells n ∨ dt.Needs n := by
  unfold DataType.Needs
  induction dt generalizing d with
  | primitive p => exact tells_addPrimitive p
  | array element capacity ih =>
    unfold addDataType
    rw [ih, ih (d := addCapacity {} element capacity), tells_addCapacity, or_assoc]
  | composite key =>
    unfold addDataType
    rw [tells_addKey, tells_addKey, or_iff_right (not_tells_empty n)]

end Dependencies

namespace DataType

variable {n : Need}

theorem needs_array {element : DataType} {capacity : Capacity} :
    (array element capacity).Needs n ↔
      (({} : Dependencies).addCapacity element capacity).Tells n ∨ element.Needs n :=
  Dependencies.tells_addDataType element

theorem needs_composite {key : TypeKey} : (composite key).Needs n ↔ n = .type key := by
  unfold Needs Dependencies.addDataType
  rw [Dependencies.tells_addKey, or_iff_right (Dependencies.not_tells_empty n)]

theorem needs_type_iff_refers {dt : DataType} {key : TypeKey} :
    dt.Needs (.type key) ↔ dt.Refers key := by
  induction dt with
  | primitive p =>
    constructor
    · intro h
      simp [Needs, Dependencies.addDataType] at h
    · intro h
      cases h
  | array element capacity ih =>
    rw [needs_array, ih]
    constructor
    · rintro (h | h)
      · simp at h
      · exact .element capacity h
    · rintro (_ | ⟨_, h⟩)
      exact Or.inr h
  | composite other =>
    rw [needs_composite]
    constructor
    · rintro h
      cases h
      exact .composite key
    · rintro (_ | _)
      rfl

theorem needs_feature_iff_hasFeature {dt : DataType} {f : Feature} :
    dt.Needs (.feature f) ↔ dt.HasFeature f := by
  induction dt with
  | primitive p =>
    constructor
    · intro h
      cases p with
      | boolean => cases f with | bool => exact .boolean | _ => exact nomatch h
      | signed bits => cases f with | integer => exact .signed bits | _ => exact nomatch h
      | unsigned bits => cases f with | integer => exact .unsigned bits | _ => exact nomatch h
      | float bits => cases f with | float => exact .float bits | _ => exact nomatch h
      | void bits => cases f <;> exact nomatch h
    · rintro (_ | _) <;> rfl
  | array element capacity ih =>
    rw [needs_array, ih]
    constructor
    · rintro (h | h)
      · cases capacity with
        | upTo bound => cases f with | variableArray => exact .variable _ _ | _ => exact nomatch h
        | fixed size =>
          cases f with
          | array => exact .fixed _ _
          | primitiveArray =>
            cases element with
            | primitive p => exact .primitives p size
            | _ => exact nomatch h
          | _ => exact nomatch h
      · exact .element capacity h
    · rintro (_ | _ | _ | _ | _ | _ | _ | ⟨_, h⟩)
      · exact Or.inl rfl
      · exact Or.inl rfl
      · exact Or.inl rfl
      · exact Or.inr h
  | composite other =>
    rw [needs_composite]
    constructor
    · rintro h
      cases h
    · rintro (_ | _)

end DataType

namespace Catalog

variable {c : Catalog} {d : Dependencies} {n : Need}

theorem get?_eq_some_iff {key : TypeKey} {t : CompositeType} :
    c.get? key = some t ↔ t ∈ c.types ∧ t.key = key := by
  constructor
  · intro h
    exact ⟨List.mem_of_find?_eq_some h, by simpa using List.find?_some h⟩
  · rintro ⟨ht, rfl⟩
    cases hget : c.get? t.key with
    | none => exact absurd (List.find?_eq_none.mp hget t ht) (by simp)
    | some other =>
      have hother : other ∈ c.types := List.mem_of_find?_eq_some hget
      have hkey : other.key = t.key := by simpa using List.find?_some hget
      rw [List.inj_on_of_nodup_map c.distinct hother ht hkey]

def Needs (c : Catalog) (t : CompositeType) (n : Need) : Prop :=
  (c.directDependencies [t]).Tells n

theorem tells_foldl_addDataType (waiting : List DataType) :
    (waiting.foldl Dependencies.addDataType d).Tells n ↔
      d.Tells n ∨ ∃ dt ∈ waiting, dt.Needs n := by
  induction waiting generalizing d with
  | nil => simp
  | cons dt rest ih =>
    rw [List.foldl_cons, ih, Dependencies.tells_addDataType, or_assoc]
    simp

theorem needs_iff {t : CompositeType} :
    c.Needs t n ↔
      (({} : Dependencies).addUnion t).Tells n ∨ ∃ dt ∈ c.dataTypesOf t, dt.Needs n :=
  tells_foldl_addDataType (c.dataTypesOf t)

theorem tells_addType {t : CompositeType} :
    (c.addType d t).Tells n ↔ d.Tells n ∨ c.Needs t n := by
  unfold addType
  rw [tells_foldl_addDataType, Dependencies.tells_addUnion, needs_iff,
    Dependencies.tells_addUnion, or_iff_right (Dependencies.not_tells_empty n), or_assoc]

theorem tells_directDependencies {types : List CompositeType} :
    (c.directDependencies types).Tells n ↔ ∃ t ∈ types, c.Needs t n := by
  have hfold : ∀ d : Dependencies,
      (types.foldl c.addType d).Tells n ↔ d.Tells n ∨ ∃ t ∈ types, c.Needs t n := by
    induction types with
    | nil => simp
    | cons t rest ih =>
      intro d
      rw [List.foldl_cons, ih, tells_addType, or_assoc]
      simp
  unfold directDependencies
  rw [hfold, or_iff_right (Dependencies.not_tells_empty n)]

/-- The attributes a type stands for: its own, and for a service those of its request and response
that the catalog defines. -/
inductive HasAttribute (c : Catalog) (t : CompositeType) (a : Attribute) : Prop where
  | own (hkind : t.isService = false) (ha : a ∈ t.attributes) : HasAttribute c t a
  | part {request response key : TypeKey} {s : CompositeType}
      (hkind : t.kind = .service request response) (hkey : key = request ∨ key = response)
      (hs : c.get? key = some s) (ha : a ∈ s.attributes) : HasAttribute c t a

theorem mem_attributesOf {t : CompositeType} {a : Attribute} :
    a ∈ c.attributesOf t ↔ c.HasAttribute t a := by
  unfold attributesOf
  constructor
  · intro ha
    split at ha
    · rename_i request response hkind
      obtain ⟨s, hs, ha⟩ := List.mem_flatMap.mp ha
      obtain ⟨key, hkey, hs⟩ := List.mem_filterMap.mp hs
      exact .part hkind (by simpa using hkey) hs ha
    · rename_i hkind
      refine .own ?_ ha
      unfold CompositeType.isService
      split
      · rename_i request response h
        exact absurd h (hkind request response)
      · rfl
  · rintro (⟨hkind, ha⟩ | ⟨hkind, hkey, hs, ha⟩)
    · split
      · rename_i request response h
        simp [CompositeType.isService, h] at hkind
      · exact ha
    · rw [hkind]
      exact List.mem_flatMap.mpr ⟨_, List.mem_filterMap.mpr ⟨_, by simpa using hkey, hs⟩, ha⟩

theorem needs_type_iff {t : CompositeType} {key : TypeKey} :
    c.Needs t (.type key) ↔ ∃ a, c.HasAttribute t a ∧ a.dataType.Refers key := by
  rw [needs_iff]
  simp [dataTypesOf, DataType.needs_type_iff_refers, mem_attributesOf]

/-- The features of a type: those of its attributes, and of a union also the integer for its tag. -/
inductive HasFeature (c : Catalog) (t : CompositeType) : Feature → Prop where
  | attribute {a : Attribute} {f : Feature} (ha : c.HasAttribute t a) (hf : a.dataType.HasFeature f) :
      HasFeature c t f
  | tag (h : t.kind = .union) : HasFeature c t .integer
  | union (h : t.kind = .union) : HasFeature c t .union

theorem needs_feature_iff {t : CompositeType} {f : Feature} :
    c.Needs t (.feature f) ↔ c.HasFeature t f := by
  rw [needs_iff, Dependencies.tells_addUnion, or_iff_right (Dependencies.not_tells_empty _),
    CompositeType.isUnion, beq_iff_eq]
  simp only [dataTypesOf, List.mem_map, exists_exists_and_eq_and, mem_attributesOf,
    DataType.needs_feature_iff_hasFeature, Need.feature.injEq]
  constructor
  · rintro (⟨hunion, rfl | rfl⟩ | ⟨a, ha, hf⟩)
    · exact .tag hunion
    · exact .union hunion
    · exact .attribute ha hf
  · rintro (⟨ha, hf⟩ | hunion | hunion)
    · exact Or.inr ⟨_, ha, hf⟩
    · exact Or.inl ⟨hunion, Or.inl rfl⟩
    · exact Or.inl ⟨hunion, Or.inr rfl⟩

end Catalog

def Dependencies.Owes (d : Dependencies) (waiting : List DataType) (n : Need) : Prop :=
  d.Tells n ∨ ∃ dt ∈ waiting, dt.Needs n

namespace Dependencies

variable {d : Dependencies} {n : Need}

@[simp] theorem owes_nil : d.Owes [] n ↔ d.Tells n := by
  simp [Owes]

theorem owes_cons {dt : DataType} {rest : List DataType} :
    d.Owes (dt :: rest) n ↔ (d.addDataType dt).Owes rest n := by
  unfold Owes
  rw [tells_addDataType, or_assoc]
  simp

theorem owes_array {element : DataType} {capacity : Capacity} {rest : List DataType} :
    d.Owes (.array element capacity :: rest) n ↔
      (d.addCapacity element capacity).Owes (element :: rest) n := by
  rw [owes_cons, owes_cons, addDataType]

theorem owes_found {key : TypeKey} {rest : List DataType} (hfound : key ∈ d.types) :
    d.Owes (.composite key :: rest) n ↔ d.Owes rest n := by
  rw [owes_cons, addDataType]
  unfold Owes
  rw [tells_addKey]
  constructor
  · rintro ((h | rfl) | h)
    · exact Or.inl h
    · exact Or.inl hfound
    · exact Or.inr h
  · rintro (h | h)
    · exact Or.inl (Or.inl h)
    · exact Or.inr h

theorem owes_new {c : Catalog} {key : TypeKey} {t : CompositeType} {rest : List DataType} :
    ((d.addKey key).addUnion t).Owes (c.dataTypesOf t ++ rest) n ↔
      d.Owes (.composite key :: rest) n ∨ c.Needs t n := by
  have hneeds : c.Needs t n ↔
      t.isUnion = true ∧ (n = .feature .integer ∨ n = .feature .union) ∨
        ∃ dt ∈ c.dataTypesOf t, dt.Needs n := by
    rw [Catalog.needs_iff, tells_addUnion, or_iff_right (not_tells_empty n)]
  rw [owes_cons, addDataType, hneeds]
  unfold Owes
  rw [tells_addUnion]
  simp only [List.mem_append, or_and_right, exists_or]
  exact (or_congr_right or_comm).trans or_or_or_comm

end Dependencies

namespace Catalog

variable {c : Catalog} {d : Dependencies} {n : Need}

def Settled (c : Catalog) (d : Dependencies) (waiting : List DataType) : Prop :=
  ∀ key ∈ d.types, ∀ t, c.get? key = some t → ∀ n, c.Needs t n → d.Owes waiting n

theorem tells_follow_of_owes {waiting : List DataType} (h : d.Owes waiting n) :
    (c.follow d waiting).Tells n := by
  fun_induction follow c d waiting with
  | case1 d => exact Dependencies.owes_nil.mp h
  | case2 d p rest ih => exact ih (Dependencies.owes_cons.mp h)
  | case3 d element capacity rest ih => exact ih (Dependencies.owes_array.mp h)
  | case4 d key rest hfound ih => exact ih ((Dependencies.owes_found hfound).mp h)
  | case5 d key rest hnew t ht ih => exact ih (Dependencies.owes_new.mpr (Or.inl h))
  | case6 d key rest hnew hnone ih => exact ih (Dependencies.owes_cons.mp h)

/-- Following keeps the types settled, so that in the end all they need is told. -/
theorem settled_follow {waiting : List DataType} (h : c.Settled d waiting) :
    c.Settled (c.follow d waiting) [] := by
  fun_induction follow c d waiting with
  | case1 d => exact h
  | case2 d p rest ih =>
    apply ih
    intro key hkey t ht n hn
    rw [Dependencies.types_addPrimitive] at hkey
    exact Dependencies.owes_cons.mp (h key hkey t ht n hn)
  | case3 d element capacity rest ih =>
    apply ih
    intro key hkey t ht n hn
    rw [Dependencies.types_addCapacity] at hkey
    exact Dependencies.owes_array.mp (h key hkey t ht n hn)
  | case4 d key rest hfound ih =>
    apply ih
    intro other hother t ht n hn
    exact (Dependencies.owes_found hfound).mp (h other hother t ht n hn)
  | case5 d key rest hnew t ht ih =>
    apply ih
    intro other hother s hs n hn
    rw [Dependencies.types_addUnion, Dependencies.types_addKey, TypeKey.mem_insertSorted] at hother
    -- The new key's type waits in front; the others have lost nothing.
    rcases hother with rfl | hother
    · obtain rfl : t = s := Option.some.inj (ht.symm.trans hs)
      exact Dependencies.owes_new.mpr (Or.inr hn)
    · exact Dependencies.owes_new.mpr (Or.inl (h other hother s hs n hn))
  | case6 d key rest hnew hnone ih =>
    apply ih
    intro other hother t ht n hn
    rw [Dependencies.types_addKey, TypeKey.mem_insertSorted] at hother
    rcases hother with rfl | hother
    · rw [hnone] at ht
      cases ht
    · exact Dependencies.owes_cons.mp (h other hother t ht n hn)

/-- What is told in the end lies in every set of needs that holds what is owed and, with a key,
all that its type needs. -/
theorem follow_least {waiting : List DataType} {P : Need → Prop}
    (hclosed : ∀ key t, P (.type key) → c.get? key = some t → ∀ n, c.Needs t n → P n)
    (howes : ∀ n, d.Owes waiting n → P n) (h : (c.follow d waiting).Tells n) : P n := by
  fun_induction follow c d waiting with
  | case1 d => exact howes n (Dependencies.owes_nil.mpr h)
  | case2 d p rest ih => exact ih (fun n hn => howes n (Dependencies.owes_cons.mpr hn)) h
  | case3 d element capacity rest ih =>
    exact ih (fun n hn => howes n (Dependencies.owes_array.mpr hn)) h
  | case4 d key rest hfound ih =>
    exact ih (fun n hn => howes n ((Dependencies.owes_found hfound).mpr hn)) h
  | case5 d key rest hnew t ht ih =>
    have hkey : P (.type key) :=
      howes _ (Or.inr ⟨_, List.mem_cons_self, DataType.needs_composite.mpr rfl⟩)
    refine ih (fun n hn => ?_) h
    rcases Dependencies.owes_new.mp hn with hn | hn
    · exact howes n hn
    · exact hclosed key t hkey ht n hn
  | case6 d key rest hnew hnone ih =>
    exact ih (fun n hn => howes n (Dependencies.owes_cons.mpr hn)) h

/-- The keys that are reached from given types: those their attributes refer to, and on from every
reached key that the catalog defines. -/
inductive Reaches (c : Catalog) (types : List CompositeType) : TypeKey → Prop where
  | given {t : CompositeType} {a : Attribute} {key : TypeKey} (ht : t ∈ types)
      (ha : c.HasAttribute t a) (hkey : a.dataType.Refers key) : Reaches c types key
  | onward {via key : TypeKey} {t : CompositeType} {a : Attribute} (hvia : Reaches c types via)
      (ht : c.get? via = some t) (ha : c.HasAttribute t a) (hkey : a.dataType.Refers key) :
      Reaches c types key

def Counts (c : Catalog) (types : List CompositeType) (t : CompositeType) : Prop :=
  t ∈ types ∨ ∃ key, c.Reaches types key ∧ c.get? key = some t

theorem reaches_iff {types : List CompositeType} {key : TypeKey} :
    c.Reaches types key ↔ ∃ t, c.Counts types t ∧ c.Needs t (.type key) := by
  constructor
  · rintro (⟨ht, ha, hkey⟩ | ⟨hvia, ht, ha, hkey⟩)
    · exact ⟨_, Or.inl ht, needs_type_iff.mpr ⟨_, ha, hkey⟩⟩
    · exact ⟨_, Or.inr ⟨_, hvia, ht⟩, needs_type_iff.mpr ⟨_, ha, hkey⟩⟩
  · rintro ⟨t, ht | ⟨via, hvia, ht⟩, hneeds⟩
    · obtain ⟨a, ha, hkey⟩ := needs_type_iff.mp hneeds
      exact .given ht ha hkey
    · obtain ⟨a, ha, hkey⟩ := needs_type_iff.mp hneeds
      exact .onward hvia ht ha hkey

theorem owes_addUnion {t : CompositeType} :
    (d.addUnion t).Owes (c.dataTypesOf t) n ↔ d.Tells n ∨ c.Needs t n := by
  unfold Dependencies.Owes
  rw [← tells_foldl_addDataType]
  exact tells_addType

/-- One given type after the other: the needs of all those given are told, the types found stay
settled, and nothing is told that is not needed. -/
theorem foldl_follow (types : List CompositeType) (d : Dependencies) (hsettled : c.Settled d []) :
    let found := types.foldl (fun d t => c.follow (d.addUnion t) (c.dataTypesOf t)) d
    (∀ n, d.Tells n ∨ (∃ t ∈ types, c.Needs t n) → found.Tells n) ∧ c.Settled found [] ∧
      ∀ P : Need → Prop,
        (∀ key t, P (.type key) → c.get? key = some t → ∀ n, c.Needs t n → P n) →
        (∀ n, d.Tells n ∨ (∃ t ∈ types, c.Needs t n) → P n) → ∀ n, found.Tells n → P n := by
  induction types generalizing d with
  | nil =>
    refine ⟨?_, hsettled, ?_⟩
    · rintro n (h | ⟨t, ht, -⟩)
      · exact h
      · cases ht
    · intro P _ htold n hn
      exact htold n (Or.inl hn)
  | cons t rest ih =>
    have hstart : c.Settled (d.addUnion t) (c.dataTypesOf t) := by
      intro key hkey s hs n hn
      rw [Dependencies.types_addUnion] at hkey
      have htold := Dependencies.owes_nil.mp (hsettled key hkey s hs n hn)
      exact owes_addUnion.mpr (Or.inl htold)
    obtain ⟨hall, hend, hleast⟩ := ih _ (settled_follow hstart)
    refine ⟨?_, hend, ?_⟩
    · rintro n (h | ⟨s, hs, hneeds⟩)
      · exact hall n (Or.inl (tells_follow_of_owes (owes_addUnion.mpr (Or.inl h))))
      · rcases List.mem_cons.mp hs with rfl | hs
        · exact hall n (Or.inl (tells_follow_of_owes (owes_addUnion.mpr (Or.inr hneeds))))
        · exact hall n (Or.inr ⟨s, hs, hneeds⟩)
    · intro P hclosed htold n hn
      refine hleast P hclosed ?_ n hn
      rintro n (h | ⟨s, hs, hneeds⟩)
      · refine follow_least hclosed ?_ h
        intro n howes
        rcases owes_addUnion.mp howes with h | h
        · exact htold n (Or.inl h)
        · exact htold n (Or.inr ⟨t, List.mem_cons_self, h⟩)
      · exact htold n (Or.inr ⟨s, List.mem_cons_of_mem t hs, hneeds⟩)

theorem tells_transitiveDependencies {types : List CompositeType} :
    (c.transitiveDependencies types).Tells n ↔ ∃ t, c.Counts types t ∧ c.Needs t n := by
  obtain ⟨hall, hsettled, hleast⟩ := foldl_follow (c := c) types {} (by simp [Settled])
  constructor
  · refine hleast (fun n => ∃ t, c.Counts types t ∧ c.Needs t n) ?_ ?_ n
    · intro key t hkey ht n hn
      exact ⟨t, Or.inr ⟨key, reaches_iff.mpr hkey, ht⟩, hn⟩
    · rintro n (h | ⟨t, ht, hn⟩)
      · exact absurd h (Dependencies.not_tells_empty n)
      · exact ⟨t, Or.inl ht, hn⟩
  · have honward : ∀ key t, key ∈ (c.transitiveDependencies types).types →
        c.get? key = some t → ∀ n, c.Needs t n → (c.transitiveDependencies types).Tells n :=
      fun key t hkey ht n hn => Dependencies.owes_nil.mp (hsettled key hkey t ht n hn)
    have hreached : ∀ key, c.Reaches types key → key ∈ (c.transitiveDependencies types).types := by
      intro key hkey
      induction hkey with
      | given ht ha hkey =>
        exact hall (.type _) (Or.inr ⟨_, ht, needs_type_iff.mpr ⟨_, ha, hkey⟩⟩)
      | onward hvia ht ha hkey ih =>
        exact honward _ _ ih ht (.type _) (needs_type_iff.mpr ⟨_, ha, hkey⟩)
    rintro ⟨t, ht | ⟨key, hkey, ht⟩, hn⟩
    · exact hall n (Or.inr ⟨t, ht, hn⟩)
    · exact honward key t (hreached key hkey) ht n hn

theorem mem_transitiveDependencies {types : List CompositeType} {key : TypeKey} :
    key ∈ (c.transitiveDependencies types).types ↔ c.Reaches types key :=
  tells_transitiveDependencies.trans reaches_iff.symm

end Catalog

/-! The keys are listed in order, so equal needs make equal dependencies. -/

def Dependencies.Sorted (d : Dependencies) : Prop :=
  d.types.Pairwise (TypeKey.lt · · = true)

namespace Dependencies

theorem sorted_addKey {d : Dependencies} (h : d.Sorted) (key : TypeKey) : (d.addKey key).Sorted :=
  Ordered.pairwise_insert TypeKey.lt_trans TypeKey.lt_total key h

theorem sorted_addDataType {d : Dependencies} (h : d.Sorted) (dt : DataType) :
    (d.addDataType dt).Sorted := by
  unfold Sorted at h ⊢
  induction dt generalizing d with
  | primitive p => rwa [addDataType, types_addPrimitive]
  | array element capacity ih =>
    apply ih
    rwa [types_addCapacity]
  | composite key => exact sorted_addKey h key

theorem eq_of_tells_iff {d e : Dependencies} (hd : d.Sorted) (he : e.Sorted)
    (h : ∀ n, d.Tells n ↔ e.Tells n) : d = e := by
  have htypes : d.types = e.types := by
    have : Std.Irrefl (TypeKey.lt · · = true) := ⟨TypeKey.lt_irrefl⟩
    have : Std.Antisymm (TypeKey.lt · · = true) :=
      ⟨fun a b hab hba => absurd (TypeKey.lt_trans a b a hab hba) (TypeKey.lt_irrefl a)⟩
    exact List.Pairwise.eq_of_mem_iff hd he fun key => h (.type key)
  have huses : ∀ f, d.uses f = e.uses f := by
    intro f
    rw [Bool.eq_iff_iff]
    exact h (.feature f)
  have hinteger := huses .integer
  have hfloat := huses .float
  have hbool := huses .bool
  have harray := huses .array
  have hvariable := huses .variableArray
  have hprimitive := huses .primitiveArray
  have hunion := huses .union
  obtain ⟨⟩ := d
  obtain ⟨⟩ := e
  simp_all [uses]

end Dependencies

namespace Catalog

theorem sorted_follow {c : Catalog} {d : Dependencies} {waiting : List DataType} (h : d.Sorted) :
    (c.follow d waiting).Sorted := by
  fun_induction follow c d waiting with
  | case1 d => exact h
  | case2 d p rest ih =>
    apply ih
    unfold Dependencies.Sorted
    rwa [Dependencies.types_addPrimitive]
  | case3 d element capacity rest ih =>
    apply ih
    unfold Dependencies.Sorted
    rwa [Dependencies.types_addCapacity]
  | case4 d key rest hfound ih => exact ih h
  | case5 d key rest hnew t ht ih =>
    apply ih
    unfold Dependencies.Sorted
    rw [Dependencies.types_addUnion]
    exact Dependencies.sorted_addKey h key
  | case6 d key rest hnew hnone ih => exact ih (Dependencies.sorted_addKey h key)

theorem sorted_transitiveDependencies {c : Catalog} {types : List CompositeType} :
    (c.transitiveDependencies types).Sorted := by
  have hfold : ∀ d : Dependencies, d.Sorted →
      (types.foldl (fun d t => c.follow (d.addUnion t) (c.dataTypesOf t)) d).Sorted := by
    induction types with
    | nil => exact fun d hd => hd
    | cons t rest ih =>
      intro d hd
      refine ih _ (sorted_follow ?_)
      unfold Dependencies.Sorted
      rwa [Dependencies.types_addUnion]
  exact hfold {} List.Pairwise.nil

theorem sorted_directDependencies {c : Catalog} {t : CompositeType} :
    (c.directDependencies [t]).Sorted := by
  have hfold : ∀ (dts : List DataType) (d : Dependencies), d.Sorted →
      (dts.foldl Dependencies.addDataType d).Sorted := by
    intro dts
    induction dts with
    | nil => exact fun d hd => hd
    | cons dt rest ih => exact fun d hd => ih _ (Dependencies.sorted_addDataType hd dt)
  refine hfold _ _ ?_
  unfold Dependencies.Sorted
  rw [Dependencies.types_addUnion]
  exact List.Pairwise.nil

structure IsDirect (c : Catalog) (t : CompositeType) (d : Dependencies) : Prop where
  sorted : d.Sorted
  types : ∀ key, key ∈ d.types ↔ ∃ a, c.HasAttribute t a ∧ a.dataType.Refers key
  features : ∀ f, d.uses f = true ↔ c.HasFeature t f

theorem isDirect_directDependencies (c : Catalog) (t : CompositeType) :
    c.IsDirect t (c.directDependencies [t]) where
  sorted := sorted_directDependencies
  types _ := needs_type_iff
  features _ := needs_feature_iff

theorem IsDirect.unique {c : Catalog} {t : CompositeType} {d e : Dependencies}
    (hd : c.IsDirect t d) (he : c.IsDirect t e) : d = e := by
  refine Dependencies.eq_of_tells_iff hd.sorted he.sorted fun n => ?_
  cases n with
  | type key => exact (hd.types key).trans (he.types key).symm
  | feature f => exact (hd.features f).trans (he.features f).symm

end Catalog

/-- Two types alike but for the order and repetition of their attributes. -/
structure CompositeType.Rearranged (t u : CompositeType) : Prop where
  key : u.key = t.key
  kind : u.kind = t.kind
  attributes : ∀ a, a ∈ u.attributes ↔ a ∈ t.attributes

/-- Two lists of types alike but for the order and repetition of the types and of the attributes
within each. -/
structure Rearranges (ts us : List CompositeType) : Prop where
  forth : ∀ t ∈ ts, ∃ u ∈ us, t.Rearranged u
  back : ∀ u ∈ us, ∃ t ∈ ts, t.Rearranged u

theorem CompositeType.Rearranged.symm {t u : CompositeType} (h : t.Rearranged u) :
    u.Rearranged t :=
  ⟨h.key.symm, h.kind.symm, fun a => (h.attributes a).symm⟩

theorem Rearranges.symm {ts us : List CompositeType} (h : Rearranges ts us) : Rearranges us ts := by
  refine ⟨?_, ?_⟩
  · intro u hu
    obtain ⟨t, ht, htu⟩ := h.back u hu
    exact ⟨t, ht, htu.symm⟩
  · intro t ht
    obtain ⟨u, hu, htu⟩ := h.forth t ht
    exact ⟨u, hu, htu.symm⟩

namespace Catalog

variable {c c' : Catalog} {n : Need}

theorem get?_rearranged (hc : Rearranges c.types c'.types) {key : TypeKey} {t : CompositeType}
    (ht : c.get? key = some t) : ∃ u, c'.get? key = some u ∧ t.Rearranged u := by
  obtain ⟨hmem, hkey⟩ := get?_eq_some_iff.mp ht
  obtain ⟨u, hu, htu⟩ := hc.forth t hmem
  exact ⟨u, get?_eq_some_iff.mpr ⟨hu, htu.key.trans hkey⟩, htu⟩

theorem hasAttribute_rearranged (hc : Rearranges c.types c'.types) {t u : CompositeType}
    (htu : t.Rearranged u) {a : Attribute} (h : c.HasAttribute t a) : c'.HasAttribute u a := by
  rcases h with ⟨hkind, ha⟩ | ⟨hkind, hkey, hs, ha⟩
  · refine .own ?_ ((htu.attributes a).mpr ha)
    unfold CompositeType.isService
    rw [htu.kind]
    exact hkind
  · obtain ⟨s, hs, hrearranged⟩ := get?_rearranged hc hs
    exact .part (htu.kind.trans hkind) hkey hs ((hrearranged.attributes a).mpr ha)

theorem needs_rearranged (hc : Rearranges c.types c'.types) {t u : CompositeType}
    (htu : t.Rearranged u) (h : c.Needs t n) : c'.Needs u n := by
  rw [needs_iff] at h ⊢
  rcases h with h | ⟨dt, hdt, hneeds⟩
  · left
    rw [Dependencies.tells_addUnion] at h ⊢
    unfold CompositeType.isUnion at h ⊢
    rwa [htu.kind]
  · obtain ⟨a, ha, rfl⟩ := List.mem_map.mp hdt
    have ha' := hasAttribute_rearranged hc htu (mem_attributesOf.mp ha)
    exact Or.inr ⟨_, List.mem_map.mpr ⟨a, mem_attributesOf.mpr ha', rfl⟩, hneeds⟩

theorem reaches_rearranged (hc : Rearranges c.types c'.types) {ts us : List CompositeType}
    (hts : Rearranges ts us) {key : TypeKey} (h : c.Reaches ts key) : c'.Reaches us key := by
  induction h with
  | given ht ha hkey =>
    obtain ⟨u, hu, htu⟩ := hts.forth _ ht
    exact .given hu (hasAttribute_rearranged hc htu ha) hkey
  | onward _ ht ha hkey ih =>
    obtain ⟨u, hu, htu⟩ := get?_rearranged hc ht
    exact .onward ih hu (hasAttribute_rearranged hc htu ha) hkey

theorem tells_rearranged (hc : Rearranges c.types c'.types) {ts us : List CompositeType}
    (hts : Rearranges ts us) (h : (c.transitiveDependencies ts).Tells n) :
    (c'.transitiveDependencies us).Tells n := by
  rw [tells_transitiveDependencies] at h ⊢
  obtain ⟨t, ht | ⟨key, hkey, ht⟩, hneeds⟩ := h
  · obtain ⟨u, hu, htu⟩ := hts.forth t ht
    exact ⟨u, Or.inl hu, needs_rearranged hc htu hneeds⟩
  · obtain ⟨u, hu, htu⟩ := get?_rearranged hc ht
    exact ⟨u, Or.inr ⟨key, reaches_rearranged hc hts hkey, hu⟩, needs_rearranged hc htu hneeds⟩

theorem tells_transitive_of_direct {types : List CompositeType}
    (h : (c.directDependencies types).Tells n) : (c.transitiveDependencies types).Tells n := by
  obtain ⟨t, ht, hneeds⟩ := tells_directDependencies.mp h
  exact tells_transitiveDependencies.mpr ⟨t, Or.inl ht, hneeds⟩

/-- Transitive dependencies are the closure of references: the keys reached and the features of
the types given or reached. They take in the direct ones, and no order and no repetition shows in
them. -/
theorem transitiveDependencies_exact (c : Catalog) (types : List CompositeType) :
    (∀ key, key ∈ (c.transitiveDependencies types).types ↔ c.Reaches types key) ∧
    (∀ f, (c.transitiveDependencies types).uses f = true ↔
      ∃ t, (t ∈ types ∨ t ∈ c.types ∧ t.key ∈ (c.transitiveDependencies types).types) ∧
        (c.directDependencies [t]).uses f = true) ∧
    (∀ key ∈ (c.directDependencies types).types, key ∈ (c.transitiveDependencies types).types) ∧
    (∀ f, (c.directDependencies types).uses f = true →
      (c.transitiveDependencies types).uses f = true) ∧
    (∀ (c' : Catalog) (types' : List CompositeType), Rearranges c.types c'.types →
      Rearranges types types' →
      c'.transitiveDependencies types' = c.transitiveDependencies types) := by
  refine ⟨fun key => mem_transitiveDependencies, ?_, ?_, ?_, ?_⟩
  · intro f
    refine (tells_transitiveDependencies (n := .feature f)).trans (exists_congr fun t => ?_)
    refine and_congr_left' (or_congr_right ?_)
    simp only [get?_eq_some_iff, mem_transitiveDependencies]
    constructor
    · rintro ⟨key, hkey, ht, rfl⟩
      exact ⟨ht, hkey⟩
    · rintro ⟨ht, hkey⟩
      exact ⟨t.key, hkey, ht, rfl⟩
  · intro key hkey
    exact tells_transitive_of_direct (n := .type key) hkey
  · intro f hf
    exact tells_transitive_of_direct (n := .feature f) hf
  · intro c' types' hc htypes
    refine Dependencies.eq_of_tells_iff sorted_transitiveDependencies
      sorted_transitiveDependencies fun n => ⟨?_, ?_⟩
    · exact tells_rearranged hc.symm htypes.symm
    · exact tells_rearranged hc htypes

end Catalog

end SchemaForge
