import SchemaForge.Proofs.Schema.Reachability

/-! The search for transitive dependencies as the recursion it is: a type calls for its data types,
and a data type that refers to a new key calls for the type of that key, which may refer anywhere.
Every such search returns, whatever the references form, and it expands each key once: exactly the
keys it finds that the catalog defines. -/

namespace SchemaForge.Catalog

/-- What the search is called for. -/
inductive Search where
  | types (types : List CompositeType)
  | dataTypes (dataTypes : List DataType)
  | dataType (dataType : DataType)

/-- With the dependencies `d` found before, the call for `s` returns `e`; the keys are those
expanded by it and by the calls below it, in that order. A key is expanded when a data type refers
to it for the first time; a service takes the attributes of its sections without expanding them. -/
inductive Returns (c : Catalog) :
    Dependencies → Search → Dependencies → List TypeKey → Prop where
  | noTypes {d : Dependencies} : Returns c d (.types []) d []
  | type {d m e : Dependencies} {t : CompositeType} {rest : List CompositeType}
      {first later : List TypeKey}
      (hfirst : Returns c (d.addUnion t) (.dataTypes (c.dataTypesOf t)) m first)
      (hlater : Returns c m (.types rest) e later) :
      Returns c d (.types (t :: rest)) e (first ++ later)
  | noDataTypes {d : Dependencies} : Returns c d (.dataTypes []) d []
  | dataTypes {d m e : Dependencies} {dt : DataType} {rest : List DataType}
      {first later : List TypeKey} (hfirst : Returns c d (.dataType dt) m first)
      (hlater : Returns c m (.dataTypes rest) e later) :
      Returns c d (.dataTypes (dt :: rest)) e (first ++ later)
  | primitive {d : Dependencies} {p : Primitive} :
      Returns c d (.dataType (.primitive p)) (d.addPrimitive p) []
  | array {d e : Dependencies} {element : DataType} {capacity : Capacity} {keys : List TypeKey}
      (h : Returns c (d.addCapacity element capacity) (.dataType element) e keys) :
      Returns c d (.dataType (.array element capacity)) e keys
  | found {d : Dependencies} {key : TypeKey} (hfound : key ∈ d.types) :
      Returns c d (.dataType (.composite key)) d []
  | dangling {d : Dependencies} {key : TypeKey} (hnew : key ∉ d.types)
      (hnone : c.get? key = none) : Returns c d (.dataType (.composite key)) (d.addKey key) []
  | expanded {d e : Dependencies} {key : TypeKey} {t : CompositeType} {keys : List TypeKey}
      (hnew : key ∉ d.types) (ht : c.get? key = some t)
      (h : Returns c (d.addKey key) (.types [t]) e keys) :
      Returns c d (.dataType (.composite key)) e (key :: keys)

variable {c : Catalog} {d m e : Dependencies} {s : Search} {keys later : List TypeKey}

theorem Returns.unique (h : c.Returns d s e keys) {e' : Dependencies} {keys' : List TypeKey}
    (h' : c.Returns d s e' keys') : e = e' ∧ keys = keys' := by
  induction h generalizing e' keys' with
  | noTypes =>
    cases h'
    exact ⟨rfl, rfl⟩
  | type _ _ ihfirst ihlater =>
    cases h' with
    | type hfirst hlater =>
      obtain ⟨rfl, rfl⟩ := ihfirst hfirst
      obtain ⟨rfl, rfl⟩ := ihlater hlater
      exact ⟨rfl, rfl⟩
  | noDataTypes =>
    cases h'
    exact ⟨rfl, rfl⟩
  | dataTypes _ _ ihfirst ihlater =>
    cases h' with
    | dataTypes hfirst hlater =>
      obtain ⟨rfl, rfl⟩ := ihfirst hfirst
      obtain ⟨rfl, rfl⟩ := ihlater hlater
      exact ⟨rfl, rfl⟩
  | primitive =>
    cases h'
    exact ⟨rfl, rfl⟩
  | array _ ih =>
    cases h' with
    | array h => exact ih h
  | found hfound =>
    cases h' with
    | found => exact ⟨rfl, rfl⟩
    | dangling hnew => exact absurd hfound hnew
    | expanded hnew => exact absurd hfound hnew
  | dangling hnew hnone =>
    cases h' with
    | found hfound => exact absurd hfound hnew
    | dangling => exact ⟨rfl, rfl⟩
    | expanded _ ht => exact absurd (hnone.symm.trans ht) (by simp)
  | expanded hnew ht _ ih =>
    cases h' with
    | found hfound => exact absurd hfound hnew
    | dangling _ hnone => exact absurd (hnone.symm.trans ht) (by simp)
    | expanded _ ht' h =>
      obtain rfl := Option.some.inj (ht.symm.trans ht')
      obtain ⟨rfl, rfl⟩ := ih h
      exact ⟨rfl, rfl⟩

/-! The list of what waits is the calls that have not returned, so following it comes to where the
calls come to. -/

/-- A call for data types returns from the first ones before it goes on to the others. -/
theorem Returns.of_append {first rest : List DataType}
    (h : c.Returns d (.dataTypes (first ++ rest)) e keys) :
    ∃ m before after, c.Returns d (.dataTypes first) m before ∧
      c.Returns m (.dataTypes rest) e after := by
  induction first generalizing d keys with
  | nil => exact ⟨d, [], keys, .noDataTypes, h⟩
  | cons dt first ih =>
    cases h with
    | dataTypes hdt hmore =>
      obtain ⟨m, before, after, hfirst, hrest⟩ := ih hmore
      exact ⟨m, _, after, .dataTypes hdt hfirst, hrest⟩

theorem returns_follow (c : Catalog) (d : Dependencies) (waiting : List DataType) :
    ∃ keys, c.Returns d (.dataTypes waiting) (c.follow d waiting) keys := by
  fun_induction follow c d waiting with
  | case1 d => exact ⟨[], .noDataTypes⟩
  | case2 d p rest ih =>
    obtain ⟨keys, h⟩ := ih
    exact ⟨_, .dataTypes .primitive h⟩
  | case3 d element capacity rest ih =>
    obtain ⟨keys, h⟩ := ih
    cases h with
    | dataTypes helement hrest => exact ⟨_, .dataTypes (.array helement) hrest⟩
  | case4 d key rest hfound ih =>
    obtain ⟨keys, h⟩ := ih
    exact ⟨_, .dataTypes (.found hfound) h⟩
  | case5 d key rest hnew t ht ih =>
    obtain ⟨keys, h⟩ := ih
    obtain ⟨m, before, after, htype, hrest⟩ := h.of_append
    exact ⟨_, .dataTypes (.expanded hnew ht (.type htype .noTypes)) hrest⟩
  | case6 d key rest hnew hnone ih =>
    obtain ⟨keys, h⟩ := ih
    exact ⟨_, .dataTypes (.dangling hnew hnone) h⟩

theorem returns_foldl_follow (types : List CompositeType) (d : Dependencies) :
    ∃ keys, c.Returns d (.types types)
      (types.foldl (fun d t => c.follow (d.addUnion t) (c.dataTypesOf t)) d) keys := by
  induction types generalizing d with
  | nil => exact ⟨[], .noTypes⟩
  | cons t rest ih =>
    obtain ⟨first, hfirst⟩ := returns_follow c (d.addUnion t) (c.dataTypesOf t)
    obtain ⟨later, hlater⟩ := ih (c.follow (d.addUnion t) (c.dataTypesOf t))
    exact ⟨first ++ later, .type hfirst hlater⟩

theorem exists_returns (c : Catalog) (d : Dependencies) (s : Search) :
    ∃ e keys, c.Returns d s e keys := by
  cases s with
  | types types => exact ⟨_, returns_foldl_follow types d⟩
  | dataTypes waiting => exact ⟨_, returns_follow c d waiting⟩
  | dataType dt =>
    obtain ⟨keys, h⟩ := returns_follow c d [dt]
    cases h with
    | dataTypes hdt _ => exact ⟨_, _, hdt⟩

/-- From `d` to `e` the keys are expanded once each: those that are found on the way and defined.
What was found before stays found. -/
structure Expands (c : Catalog) (d e : Dependencies) (keys : List TypeKey) : Prop where
  kept : ∀ key ∈ d.types, key ∈ e.types
  nodup : keys.Nodup
  mem_iff : ∀ key, key ∈ keys ↔ key ∈ e.types ∧ key ∉ d.types ∧ c.contains key = true

namespace Expands

theorem of_types_eq (h : e.types = d.types) : c.Expands d e [] where
  kept := fun key hkey => h ▸ hkey
  nodup := List.nodup_nil
  mem_iff := by
    intro key
    rw [h]
    constructor
    · intro hkey
      cases hkey
    · rintro ⟨hfound, hnew, -⟩
      exact absurd hfound hnew

/-- Keys that are expanded later are not found before, so none is expanded again. -/
theorem append (h : c.Expands d m keys) (hlater : c.Expands m e later) :
    c.Expands d e (keys ++ later) where
  kept := fun key hkey => hlater.kept key (h.kept key hkey)
  nodup := by
    refine List.nodup_append.mpr ⟨h.nodup, hlater.nodup, ?_⟩
    rintro key hkey _ hagain rfl
    have hfound : key ∈ m.types := ((h.mem_iff key).mp hkey).1
    exact ((hlater.mem_iff key).mp hagain).2.1 hfound
  mem_iff := by
    intro key
    rw [List.mem_append, h.mem_iff, hlater.mem_iff]
    have hbefore := h.kept key
    have hafter := hlater.kept key
    tauto

theorem dangling {key : TypeKey} (hnone : c.get? key = none) : c.Expands d (d.addKey key) [] where
  kept := fun _ hkey => (TypeKey.mem_insertSorted ..).mpr (Or.inr hkey)
  nodup := List.nodup_nil
  mem_iff := by
    intro other
    rw [Dependencies.types_addKey, TypeKey.mem_insertSorted]
    constructor
    · intro h
      cases h
    · rintro ⟨rfl | hfound, hnew, hdefined⟩
      · simp [contains, hnone] at hdefined
      · exact absurd hfound hnew

theorem cons {key : TypeKey} {t : CompositeType} (hnew : key ∉ d.types) (ht : c.get? key = some t)
    (h : c.Expands (d.addKey key) e keys) : c.Expands d e (key :: keys) := by
  obtain ⟨hkept, hnodup, hmem⟩ := h
  simp only [Dependencies.types_addKey, TypeKey.mem_insertSorted] at hkept hmem
  have hdefined : c.contains key = true := by simp [contains, ht]
  refine ⟨fun other hother => hkept other (Or.inr hother), ?_, ?_⟩
  · refine List.nodup_cons.mpr ⟨fun hagain => ?_, hnodup⟩
    exact ((hmem key).mp hagain).2.1 (Or.inl rfl)
  · intro other
    rw [List.mem_cons, hmem]
    by_cases hother : other = key
    · subst hother
      simp [hkept, hnew, hdefined]
    · simp [hother]

end Expands

theorem Returns.expands (h : c.Returns d s e keys) : c.Expands d e keys := by
  induction h with
  | noTypes => exact .of_types_eq rfl
  | type _ _ ihfirst ihlater =>
    exact ((Expands.of_types_eq (Dependencies.types_addUnion _ _)).append ihfirst).append ihlater
  | noDataTypes => exact .of_types_eq rfl
  | dataTypes _ _ ihfirst ihlater => exact ihfirst.append ihlater
  | primitive => exact .of_types_eq (Dependencies.types_addPrimitive _ _)
  | array _ ih => exact (Expands.of_types_eq (Dependencies.types_addCapacity _ _ _)).append ih
  | found _ => exact .of_types_eq rfl
  | dangling _ hnone => exact .dangling hnone
  | expanded hnew ht _ ih => exact .cons hnew ht ih

/-- The search returns from every call in one way. For transitive dependencies it returns what
the catalog's function gives, and on the way it expands no key twice; the keys it expands are those
found that the catalog defines. -/
theorem returns_expanding_once (c : Catalog) :
    (∀ d s, ∃ e keys, ∀ e' keys', c.Returns d s e' keys' ↔ e' = e ∧ keys' = keys) ∧
    ∀ types, ∃ keys, c.Returns {} (.types types) (c.transitiveDependencies types) keys ∧
      keys.Nodup ∧
      ∀ key, key ∈ keys ↔
        key ∈ (c.transitiveDependencies types).types ∧ c.contains key = true := by
  refine ⟨?_, ?_⟩
  · intro d s
    obtain ⟨e, keys, h⟩ := exists_returns c d s
    refine ⟨e, keys, fun e' keys' => ⟨fun h' => h'.unique h, ?_⟩⟩
    rintro ⟨rfl, rfl⟩
    exact h
  · intro types
    obtain ⟨keys, h⟩ := returns_foldl_follow (c := c) types {}
    refine ⟨keys, h, h.expands.nodup, fun key => ?_⟩
    rw [h.expands.mem_iff]
    simp [transitiveDependencies]

end SchemaForge.Catalog
