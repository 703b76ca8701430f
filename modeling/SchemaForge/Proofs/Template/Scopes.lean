import SchemaForge.Generation.Data
import SchemaForge.Proofs.Json.Arranged
import SchemaForge.Proofs.Template.Printing
import SchemaForge.Proofs.Template.Trees

/-! The data of types and namespaces, as their templates see them: what the paths into them lead to,
and what the nodes print that name them. -/

namespace SchemaForge

namespace Template

open Json (obj arr str int)

section Data

/-- Data are sorted when they are made and again when they are rendered, and lead where they did. -/
theorem navigate_sorted {members : List (String × Json)} {key : String} {v : Json}
    {rest : List String} {r : Except RenderError (Option Json)}
    (hnodup : (members.map Prod.fst).Nodup) (h : members.lookup key = some v)
    (hrest : navigate rest v.sorted.sorted = r) :
    navigate (key :: rest) (obj members).sorted.sorted = r := by
  obtain ⟨once, honce, hnodup', hlookup⟩ := Json.exists_sorted_obj hnodup
  obtain ⟨twice, htwice, -, hlookup'⟩ := Json.exists_sorted_obj hnodup'
  rw [honce, htwice, navigate, hlookup', hlookup, h]
  exact hrest

theorem resolve_sorted {members : List (String × Json)} {key : String} {v : Json}
    {rest : List String} {r : Except RenderError (Option Json)}
    (hnodup : (members.map Prod.fst).Nodup) (h : members.lookup key = some v)
    (hrest : navigate rest v.sorted.sorted = r) :
    (Scope.ofData (obj members).sorted.sorted).resolve (pathOf (key :: rest)) = r := by
  rw [pathOf, (Scope.bare_ofData _).resolve]
  exact navigate_sorted hnodup h hrest

variable {l : Language} {c : Context} {catalog : Catalog} {t : CompositeType}
  {includes : List String} {key : String} {v : Json}

theorem exists_ofType (l : Language) (catalog : Catalog) (t : CompositeType) : ∃ more,
    Data.ofType l catalog t = obj (Data.compositeMembers l t ++ more) ∧
      ((Data.compositeMembers l t ++ more).map Prod.fst).Nodup := by
  unfold Data.ofType
  split
  · exact ⟨_, rfl, by simp [Data.compositeMembers]⟩
  · exact ⟨[], by rw [List.append_nil], by simp [Data.compositeMembers]⟩

def typeScope (l : Language) (c : Context) (catalog : Catalog) (t : CompositeType)
    (includes : List String) : Scope :=
  Scope.ofData (Data.forType l c catalog t includes).sorted

theorem resolve_data {rest : List String} {r : Except RenderError (Option Json)}
    (h : (("T", Data.ofType l catalog t) :: ("includes", Json.strings includes) ::
      Data.shared l c).lookup key = some v) (hrest : navigate rest v.sorted.sorted = r) :
    (typeScope l c catalog t includes).resolve (pathOf (key :: rest)) = r :=
  resolve_sorted (by simp [Data.shared]) h hrest

theorem resolve_type {rest : List String} {r : Except RenderError (Option Json)}
    (h : (Data.compositeMembers l t).lookup key = some v)
    (hrest : navigate rest v.sorted.sorted = r) :
    (typeScope l c catalog t includes).resolve (pathOf ("T" :: key :: rest)) = r := by
  obtain ⟨more, htype, hnodup⟩ := exists_ofType l catalog t
  refine resolve_data rfl ?_
  rw [htype]
  refine navigate_sorted hnodup ?_ hrest
  rw [List.lookup_append, h]
  rfl

variable {n : Namespace}

def spaceScope (l : Language) (c : Context) (n : Namespace) : Scope :=
  Scope.ofData (Data.forNamespace l c n).sorted

theorem resolve_spaceData {rest : List String} {r : Except RenderError (Option Json)}
    (h : (("N", Data.ofNamespace l n) :: Data.shared l c).lookup key = some v)
    (hrest : navigate rest v.sorted.sorted = r) :
    (spaceScope l c n).resolve (pathOf (key :: rest)) = r :=
  resolve_sorted (by simp [Data.shared]) h hrest

theorem resolve_space {members : List (String × Json)} {rest : List String}
    {r : Except RenderError (Option Json)} (hmembers : Data.ofNamespace l n = obj members)
    (h : members.lookup key = some v) (hrest : navigate rest v.sorted.sorted = r) :
    (spaceScope l c n).resolve (pathOf ("N" :: key :: rest)) = r := by
  have hnodup : (members.map Prod.fst).Nodup := by
    unfold Data.ofNamespace at hmembers
    cases hmembers
    simp
  refine resolve_spaceData rfl ?_
  rw [hmembers]
  exact navigate_sorted hnodup h hrest

end Data

section Printing

open Render

variable {lib : Library} {again : Again} {l : Language} {c : Context} {catalog : Catalog}
  {t : CompositeType} {includes : List String} {s : Scope}

section Nodes

theorem prints_valueOf {names : List String} {v : Json}
    (hname : Helper.ofName? (pathOf names).raw = none)
    (h : s.resolve (pathOf names) = .ok (some v)) :
    Prints (node lib again s (valueOf names)) () (printed v) :=
  prints_value hname h

theorem prints_textOf (text : String) : Prints (node lib again s (textOf text)) () text.toList :=
  prints_text _

theorem prints_nothing : Prints (node lib again s (textOf "")) () [] :=
  prints_textOf ""

theorem prints_id {names : List String} {token : String} (hlib : lib.naming.encoder = l.encoder)
    (h : s.resolve (pathOf names) = .ok (some (str token))) :
    Prints (node lib again s (helped "id" names)) () (l.encoder.encode token).toList := by
  have hname : Helper.ofName? "id" = some (.value .identifier) := rfl
  refine prints_helper hname (Nat.le_refl 1) h (w := str (l.encoder.encode token)) fun _ => ?_
  rw [← hlib]
  rfl

theorem prints_idOfSnake {names : List String} {text : String}
    (hlib : lib.naming.encoder = l.encoder)
    (h : s.resolve (pathOf names) = .ok (some (str text))) :
    Prints (node lib again s (helpedTwice "id" "snake_case" names)) ()
      (l.encoder.encode (Text.snakeCase text)).toList := by
  have hname : Helper.ofName? "id" = some (.value .identifier) := rfl
  have hinner : Helper.ofName? "snake_case" = some (.value .snakeCase) := rfl
  have hsnake : Prints (evalAll lib s [.call "snake_case" [.path (pathOf names)] []])
      [str (Text.snakeCase text)] [] := prints_evalCall hinner (Nat.le_refl 1) h fun _ => rfl
  refine prints_call hname (Nat.le_refl 1) hsnake
    (w := str (l.encoder.encode (Text.snakeCase text))) fun _ => ?_
  rw [← hlib]
  rfl

theorem resolve_this (hs : s.Bare) (v : Json) (facts : List (String × Json)) :
    (s.push { value := v, facts }).resolve (pathOf []) = .ok (some v) :=
  (hs.push v facts).resolve _ _

theorem prints_eachOf {ι : Type} {items : List ι} {value : ι → Json} {names : List String}
    {body : List Node} {text : ι → List Char}
    (hv : s.resolve (pathOf names) = .ok (some (arr (items.map value))))
    (hbody : ∀ i ∈ items, ∀ facts,
      Prints (nodes lib again (s.push { value := value i, facts }) body) () (text i)) :
    Prints (node lib again s (eachOf names body)) () (items.flatMap text) :=
  prints_each hv hbody

theorem prints_ifSo {b : Bool} {names : List String} {ownLine : Bool} {body : List Node}
    {inverse : Option (List Node)} {cs : List Char}
    (hv : s.resolve (pathOf names) = .ok (some (.bool b)))
    (hbody : b = true → Prints (nodes lib again s body) () cs)
    (hinverse : b = false → Prints (otherwise lib again s inverse) () cs) :
    Prints (node lib again s (ifSo names ownLine body inverse)) () cs :=
  prints_if hv hbody hinverse

theorem prints_unlessSo {v : Json} {names : List String} {body : List Node} {cs : List Char}
    (hv : s.resolve (pathOf names) = .ok (some v))
    (hbody : isTruthy false v = false → Prints (nodes lib again s body) () cs) :
    Prints (node lib again s (unlessSo names body)) () (if isTruthy false v then [] else cs) :=
  prints_unless hv hbody

end Nodes

section Types

theorem prints_fullName : Prints (node lib again (typeScope l c catalog t includes)
    (valueOf ["T", "full_name"])) () t.fullName.toList :=
  prints_valueOf rfl (v := str t.fullName) (resolve_type rfl rfl)

theorem prints_major : Prints (node lib again (typeScope l c catalog t includes)
    (valueOf ["T", "version", "major"])) () (toString t.version.major.toNat).toList :=
  prints_valueOf rfl (v := int t.version.major.toNat)
    (resolve_type rfl (navigate_sorted (by simp) rfl rfl))

theorem prints_minor : Prints (node lib again (typeScope l c catalog t includes)
    (valueOf ["T", "version", "minor"])) () (toString t.version.minor.toNat).toList :=
  prints_valueOf rfl (v := int t.version.minor.toNat)
    (resolve_type rfl (navigate_sorted (by simp) rfl rfl))

theorem prints_generatorVersion : Prints (node lib again (typeScope l c catalog t includes)
    (valueOf ["ctx", "generator_version"])) () c.generatorVersion.toList :=
  prints_valueOf rfl (v := str c.generatorVersion)
    (resolve_data rfl (navigate_sorted (by simp) rfl rfl))

end Types

section Namespaces

variable {n : Namespace} {k : TypeKey} {path : Path} {facts : List (String × Json)}

theorem prints_spaceName : Prints (node lib again (spaceScope l c n)
    (valueOf ["N", "full_name"])) () n.fullName.toList :=
  prints_valueOf rfl (v := str n.fullName) (resolve_space rfl rfl rfl)

theorem prints_spaceVersion : Prints (node lib again (spaceScope l c n)
    (valueOf ["ctx", "generator_version"])) () c.generatorVersion.toList :=
  prints_valueOf rfl (v := str c.generatorVersion)
    (resolve_spaceData rfl (navigate_sorted (by simp) rfl rfl))

theorem resolve_placedTypes : (spaceScope l c n).resolve (pathOf ["N", "types"]) =
    .ok (some (arr (n.types.map fun entry =>
      (Data.ofPlacedType l entry.1 entry.2).sorted.sorted))) := by
  refine resolve_space rfl rfl ?_
  rw [Json.sorted_arr, Json.sorted_arr, List.map_map, List.map_map]
  rfl

theorem prints_stem (hs : s.Bare) : Prints (node lib again
    (s.push { value := (Data.ofPlacedType l k path).sorted.sorted, facts }) (valueOf ["stem"])) ()
      (Layout.typeStem k).toList := by
  refine prints_valueOf rfl (v := str (Layout.typeStem k)) ?_
  rw [pathOf, (hs.push _ facts).resolve]
  exact navigate_sorted (by simp) rfl rfl

end Namespaces

section Attributes

variable {a : Attribute} {facts : List (String × Json)}

def attributeScope (l : Language) (a : Attribute) (s : Scope) (facts : List (String × Json)) :
    Scope :=
  s.push { value := (Data.ofAttribute l a).sorted.sorted, facts }

theorem resolve_attribute (hs : s.Bare) {members : List (String × Json)} {key : String} {v : Json}
    {r : Except RenderError (Option Json)} (hmembers : Data.ofAttribute l a = obj members)
    (h : members.lookup key = some v) (hrest : navigate [] v.sorted.sorted = r) :
    (attributeScope l a s facts).resolve (pathOf [key]) = r := by
  have hnodup : (members.map Prod.fst).Nodup := by
    unfold Data.ofAttribute at hmembers
    cases hmembers
    simp
  have hnavigate := navigate_sorted hnodup h hrest
  rw [← hmembers] at hnavigate
  exact ((hs.push _ facts).resolve _ _).trans hnavigate

def constantText (l : Language) (a : Attribute) : List Char :=
  match a.kind with
  | .constant v => (l.rules.namedValue v).toList
  | _ => []

theorem prints_constantText (hs : s.Bare) : Prints (node lib again (attributeScope l a s facts)
    (valueOf ["value"])) () (constantText l a) := by
  obtain ⟨name, kind, dataType⟩ := a
  cases kind with
  | constant v =>
    exact prints_valueOf rfl (v := str (l.rules.namedValue v)) (resolve_attribute hs rfl rfl rfl)
  | _ => exact prints_valueOf rfl (v := .null) (resolve_attribute hs rfl rfl rfl)

theorem resolve_attributes {key : String} {attributes : List Attribute}
    (h : (Data.compositeMembers l t).lookup key =
      some (arr (attributes.map (Data.ofAttribute l)))) :
    (typeScope l c catalog t includes).resolve (pathOf ["T", key]) =
      .ok (some (arr (attributes.map fun a => (Data.ofAttribute l a).sorted.sorted))) := by
  refine resolve_type h ?_
  rw [Json.sorted_arr, Json.sorted_arr, List.map_map, List.map_map]
  rfl

end Attributes

end Printing

end Template

end SchemaForge
