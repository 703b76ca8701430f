import SchemaForge.Proofs.Target.CppTree
import SchemaForge.Proofs.Template.Scopes

/-! The C++ header of a type. Rendering the template of a type ends for all data of types, and
prints a text that can be written down: the namespaces around the type, its local name, and a line
for each constant and field, with the qualified name of its type. -/

namespace SchemaForge

namespace Cpp

def guardName (t : CompositeType) : List Char :=
  (Text.macroName t.fullName).toList ++ "_".toList ++ (toString t.version.major.toNat).toList ++
    "_".toList ++ (toString t.version.minor.toNat).toList

def top (c : Context) (t : CompositeType) (includes : List String) : List Char :=
  "//\n// ".toList ++ t.fullName.toList ++ " version ".toList ++
    (toString t.version.major.toNat).toList ++ ".".toList ++
    (toString t.version.minor.toNat).toList ++ "\n// Generated by dsdlgen ".toList ++
    c.generatorVersion.toList ++ ". Do not edit.\n//\n\n#ifndef ".toList ++ guardName t ++
    "_HPP_INCLUDED\n#define ".toList ++ guardName t ++ "_HPP_INCLUDED\n\n".toList ++
    includes.flatMap (fun i => "#include ".toList ++ i.toList ++ "\n".toList) ++ "\n".toList

def opening (spaces : List String) (deprecated : Bool) (name : String) : List Char :=
  spaces.flatMap (fun space => "namespace ".toList ++ space.toList ++ "\n\x7b\n".toList) ++
    "\nstruct ".toList ++ (if deprecated then "[[deprecated]] ".toList else []) ++ name.toList ++
    "\n\x7b\n".toList

def typeOf (l : Language) (a : Attribute) : List Char :=
  (Data.dataTypeName l (Data.qualifiedName l) a.dataType).toList

def identifierOf (l : Language) (a : Attribute) : List Char :=
  (l.encoder.encode a.name).toList

def constant (l : Language) (a : Attribute) : List Char :=
  let value := match a.kind with
    | .constant v => (l.rules.namedValue v).toList
    | _ => []
  "    static constexpr ".toList ++ typeOf l a ++ " ".toList ++ identifierOf l a ++
    " = ".toList ++ value ++ ";\n".toList

def capacity? (a : Attribute) : Option Capacity :=
  match a.dataType with
  | .array _ capacity => some capacity
  | _ => none

def array (container ending : String) (l : Language) (a : Attribute) (capacity : Capacity) :
    List Char :=
  container.toList ++ typeOf l a ++ ", ".toList ++ (toString capacity.max.toNat).toList ++
    "> ".toList ++ identifierOf l a ++ ending.toList

def single (l : Language) (a : Attribute) : List Char :=
  "    ".toList ++ typeOf l a ++ " ".toList ++ identifierOf l a ++ "\x7b\x7d;\n".toList

def field (l : Language) (a : Attribute) : List Char :=
  if a.isPadding then []
  else match capacity? a with
    | some capacity =>
      if capacity.isVariable then
        array "    dsdlgen::support::VariableLengthArray<" ";\n" l a capacity
      else array "    std::array<" "\x7b\x7d;\n" l a capacity
    | none => single l a

def closing (spaces : List String) : List Char :=
  "\x7d;\n\n".toList ++ spaces.flatMap (fun _ => "\x7d\n".toList) ++ "\n#endif\n".toList

def header (l : Language) (c : Context) (t : CompositeType) (includes : List String) : List Char :=
  let spaces := t.namespaceComponents.map l.encoder.encode
  top c t includes ++ (opening spaces t.deprecated (Data.localName l t.key) ++
    (t.constants.flatMap (constant l) ++ (t.fields.flatMap (field l) ++ closing spaces)))

end Cpp

namespace Template

open Json (obj arr str int)

section Printing

open Render

variable {lib : Library} {again : Again} {l : Language} {c : Context} {catalog : Catalog}
  {t : CompositeType} {includes : List String} {s : Scope}

section Header

theorem prints_macrofy : Prints (node lib again (typeScope l c catalog t includes)
    (helped "macrofy" ["T", "full_name"])) () (Text.macroName t.fullName).toList := by
  have hname : Helper.ofName? "macrofy" = some (.value .macroName) := rfl
  exact prints_helper hname (Nat.le_refl 1) (resolve_type rfl rfl) (v := str t.fullName)
    (w := str (Text.macroName t.fullName)) fun _ => rfl

theorem prints_guard : Prints (nodes lib again (typeScope l c catalog t includes) cppGuard) ()
    (Cpp.guardName t) := by
  refine Prints.of_eq (prints_nodes_cons prints_macrofy <| prints_nodes_cons (prints_textOf _) <|
    prints_nodes_cons prints_major <| prints_nodes_cons (prints_textOf _) <|
    prints_nodes_cons prints_minor prints_nodes_nil) ?_
  simp [Cpp.guardName]

theorem prints_includes : Prints (node lib again (typeScope l c catalog t includes)
    (eachOf ["includes"] [textOf "#include ", valueOf [], textOf "\n"])) ()
    (includes.flatMap fun i => "#include ".toList ++ i.toList ++ "\n".toList) := by
  have hincludes : (typeScope l c catalog t includes).resolve (pathOf ["includes"]) =
      .ok (some (arr (includes.map str))) := by
    refine resolve_data rfl ?_
    rw [Json.sorted_strings, Json.sorted_strings]
    rfl
  refine prints_eachOf hincludes fun i _ facts => ?_
  have hthis : Prints (node lib again ((typeScope l c catalog t includes).push
      { value := str i, facts }) (valueOf [])) () i.toList :=
    prints_valueOf (v := str i) rfl (resolve_this (Scope.bare_ofData _) _ facts)
  refine Prints.of_eq (prints_nodes_cons (prints_textOf _) <| prints_nodes_cons hthis <|
    prints_nodes_cons (prints_textOf _) prints_nodes_nil) ?_
  rw [List.append_nil, List.append_assoc]

theorem prints_top : Prints (nodes lib again (typeScope l c catalog t includes) cppTop) ()
    (Cpp.top c t includes) := by
  have hnames := prints_nodes_cons (prints_textOf "//\n// ") <|
    prints_nodes_cons (@prints_fullName lib again l c catalog t includes) <|
    prints_nodes_cons (prints_textOf " version ") <| prints_nodes_cons prints_major <|
    prints_nodes_cons (prints_textOf ".") <| prints_nodes_cons prints_minor <|
    prints_nodes_cons (prints_textOf "\n// Generated by dsdlgen ") <|
    prints_nodes_cons prints_generatorVersion <|
    prints_nodes_cons (prints_textOf ". Do not edit.\n//\n\n#ifndef ") prints_nodes_nil
  have hdefine := prints_nodes_cons (prints_textOf "_HPP_INCLUDED\n#define ")
    (@prints_nodes_nil lib again (typeScope l c catalog t includes))
  have hincludes := prints_nodes_cons (prints_textOf "_HPP_INCLUDED\n\n") <|
    prints_nodes_cons (@prints_includes lib again l c catalog t includes) <|
    prints_nodes_cons (prints_textOf "\n") prints_nodes_nil
  have hall := prints_nodes_append (prints_nodes_append (prints_nodes_append
    (prints_nodes_append hnames prints_guard) hdefine) prints_guard) hincludes
  unfold cppTop
  refine Prints.of_eq hall ?_
  unfold Cpp.top
  simp only [List.append_assoc, List.append_nil]

theorem resolve_components : (typeScope l c catalog t includes).resolve
    (pathOf ["T", "namespace_components"]) = .ok (some (arr (t.namespaceComponents.map str))) := by
  refine resolve_type rfl ?_
  rw [Json.sorted_strings, Json.sorted_strings]
  rfl

theorem prints_opening (hlib : lib.naming.encoder = l.encoder) :
    Prints (nodes lib again (typeScope l c catalog t includes) cppOpening) ()
      (Cpp.opening (t.namespaceComponents.map l.encoder.encode) t.deprecated
        (Data.localName l t.key)) := by
  have hspaces : Prints (node lib again (typeScope l c catalog t includes)
      (eachOf ["T", "namespace_components"] [textOf "namespace ", helped "id" [],
        textOf "\n\x7b\n"])) () (t.namespaceComponents.flatMap fun space =>
          "namespace ".toList ++ (l.encoder.encode space).toList ++ "\n\x7b\n".toList) := by
    refine prints_eachOf resolve_components fun space _ facts => ?_
    have hthis : Prints (node lib again ((typeScope l c catalog t includes).push
        { value := str space, facts }) (helped "id" [])) () (l.encoder.encode space).toList :=
      prints_id hlib (resolve_this (Scope.bare_ofData _) _ facts)
    refine Prints.of_eq (prints_nodes_cons (prints_textOf _) <| prints_nodes_cons hthis <|
      prints_nodes_cons (prints_textOf _) prints_nodes_nil) ?_
    rw [List.append_nil, List.append_assoc]
  have hdeprecated : Prints (node lib again (typeScope l c catalog t includes)
      (ifSo ["T", "deprecated"] false [textOf "[[deprecated]] "] none)) ()
        (if t.deprecated then "[[deprecated]] ".toList else []) := by
    refine prints_if (b := t.deprecated) (resolve_type rfl rfl) (fun h => ?_) fun h => ?_
    · rw [h, if_pos rfl]
      refine Prints.of_eq (prints_nodes_cons (prints_textOf _) prints_nodes_nil) ?_
      rw [List.append_nil]
    · rw [h, if_neg Bool.false_ne_true, otherwise]
      exact Prints.pure ()
  have hname : Prints (node lib again (typeScope l c catalog t includes)
      (valueOf ["T", "local_name"])) () (Data.localName l t.key).toList :=
    prints_valueOf rfl (v := str (Data.localName l t.key)) (resolve_type rfl rfl)
  have hall := prints_nodes_cons hspaces <| prints_nodes_cons (prints_textOf "\nstruct ") <|
    prints_nodes_cons hdeprecated <| prints_nodes_cons hname <|
    prints_nodes_cons (prints_textOf "\n\x7b\n") prints_nodes_nil
  unfold cppOpening
  refine Prints.of_eq hall ?_
  unfold Cpp.opening
  simp only [List.flatMap_map, List.append_assoc, List.append_nil]

theorem prints_closing : Prints (nodes lib again (typeScope l c catalog t includes) cppClosing) ()
    (Cpp.closing (t.namespaceComponents.map l.encoder.encode)) := by
  have hspaces : Prints (node lib again (typeScope l c catalog t includes)
      (eachOf ["T", "namespace_components"] [textOf "\x7d\n"])) ()
        (t.namespaceComponents.flatMap fun _ => "\x7d\n".toList) := by
    refine prints_eachOf resolve_components fun space _ facts => ?_
    refine Prints.of_eq (prints_nodes_cons (prints_textOf _) prints_nodes_nil) ?_
    rw [List.append_nil]
  have hall := prints_nodes_cons (prints_textOf "\x7d;\n\n") <| prints_nodes_cons hspaces <|
    prints_nodes_cons (prints_textOf "\n#endif\n") prints_nodes_nil
  unfold cppClosing
  refine Prints.of_eq hall ?_
  unfold Cpp.closing
  simp only [List.flatMap_map, List.append_assoc, List.append_nil]

end Header

section Attributes

variable {a : Attribute} {facts : List (String × Json)}

theorem prints_typeOf (hs : s.Bare) : Prints (node lib again (attributeScope l a s facts)
    (valueOf ["qualified_type_name"])) () (Cpp.typeOf l a) :=
  prints_valueOf rfl (v := str (Data.dataTypeName l (Data.qualifiedName l) a.dataType))
    (resolve_attribute hs rfl rfl rfl)

theorem prints_identifierOf (hlib : lib.naming.encoder = l.encoder) (hs : s.Bare) :
    Prints (node lib again (attributeScope l a s facts) (helped "id" ["name"])) ()
      (Cpp.identifierOf l a) :=
  prints_id hlib (resolve_attribute hs rfl rfl rfl)

theorem prints_constant (hlib : lib.naming.encoder = l.encoder) (hs : s.Bare) :
    Prints (nodes lib again (attributeScope l a s facts) cppConstant) () (Cpp.constant l a) := by
  have htype : Prints (node lib again (attributeScope l a s facts)
      (valueOf ["qualified_type_name"])) () (Cpp.typeOf l a) := prints_typeOf hs
  have hvalue : Prints (node lib again (attributeScope l a s facts) (valueOf ["value"])) ()
      (constantText l a) := prints_constantText hs
  have hall := prints_nodes_cons (prints_textOf "    static constexpr ") <|
    prints_nodes_cons htype <| prints_nodes_cons (prints_textOf " ") <|
    prints_nodes_cons (prints_identifierOf hlib hs) <| prints_nodes_cons (prints_textOf " = ") <|
    prints_nodes_cons hvalue <| prints_nodes_cons (prints_textOf ";\n") prints_nodes_nil
  refine Prints.of_eq hall ?_
  unfold Cpp.constant
  simp only [List.append_assoc, List.append_nil]
  rfl

theorem prints_capacity (hs : s.Bare) {capacity : Capacity}
    (h : Cpp.capacity? a = some capacity) :
    Prints (node lib again (attributeScope l a s facts) (valueOf ["capacity"])) ()
      (toString capacity.max.toNat).toList := by
  have hcapacity : (attributeScope l a s facts).resolve (pathOf ["capacity"]) = .ok (some
      (Json.ofOption (fun c : Capacity => int c.max.toNat) (Cpp.capacity? a)).sorted.sorted) :=
    resolve_attribute hs rfl rfl rfl
  rw [h] at hcapacity
  exact prints_valueOf rfl hcapacity

theorem prints_array (hlib : lib.naming.encoder = l.encoder) (hs : s.Bare)
    {capacity : Capacity} (h : Cpp.capacity? a = some capacity) (container ending : String) :
    Prints (nodes lib again (attributeScope l a s facts) (cppArray container ending)) ()
      (Cpp.array container ending l a capacity) := by
  have htype : Prints (node lib again (attributeScope l a s facts)
      (valueOf ["qualified_type_name"])) () (Cpp.typeOf l a) := prints_typeOf hs
  have hall := prints_nodes_cons (prints_textOf container) <| prints_nodes_cons htype <|
    prints_nodes_cons (prints_textOf ", ") <| prints_nodes_cons (prints_capacity hs h) <|
    prints_nodes_cons (prints_textOf "> ") <| prints_nodes_cons (prints_identifierOf hlib hs) <|
    prints_nodes_cons (prints_textOf ending) prints_nodes_nil
  refine Prints.of_eq hall ?_
  unfold Cpp.array
  simp only [List.append_assoc, List.append_nil]

theorem prints_cppSingle (hlib : lib.naming.encoder = l.encoder) (hs : s.Bare) :
    Prints (nodes lib again (attributeScope l a s facts) cppSingle) () (Cpp.single l a) := by
  have htype : Prints (node lib again (attributeScope l a s facts)
      (valueOf ["qualified_type_name"])) () (Cpp.typeOf l a) := prints_typeOf hs
  have hall := prints_nodes_cons (prints_textOf "    ") <| prints_nodes_cons htype <|
    prints_nodes_cons (prints_textOf " ") <| prints_nodes_cons (prints_identifierOf hlib hs) <|
    prints_nodes_cons (prints_textOf "\x7b\x7d;\n") prints_nodes_nil
  refine Prints.of_eq hall ?_
  unfold Cpp.single
  simp only [List.append_assoc, List.append_nil]

theorem prints_field (hlib : lib.naming.encoder = l.encoder) (hs : s.Bare) :
    Prints (nodes lib again (attributeScope l a s facts) cppField) () (Cpp.field l a) := by
  have hpadding : (attributeScope l a s facts).resolve (pathOf ["is_padding"]) =
      .ok (some (.bool a.isPadding)) := resolve_attribute hs rfl rfl rfl
  have hvariable : (attributeScope l a s facts).resolve (pathOf ["is_variable_length"]) =
      .ok (some (.bool ((Cpp.capacity? a).any (·.isVariable)))) := resolve_attribute hs rfl rfl rfl
  have harray : (attributeScope l a s facts).resolve (pathOf ["is_array"]) =
      .ok (some (.bool (Cpp.capacity? a).isSome)) := resolve_attribute hs rfl rfl rfl
  unfold Cpp.field
  refine prints_single (prints_ifSo hpadding (fun h => ?_) fun h => ?_)
  · rw [h, if_pos rfl]
    exact prints_single (prints_textOf "")
  rw [h, if_neg Bool.false_ne_true]
  refine prints_otherwise (prints_single (prints_ifSo hvariable (fun h => ?_) fun h => ?_))
  · obtain ⟨capacity, hcapacity, hlength⟩ : ∃ capacity, Cpp.capacity? a = some capacity ∧
        capacity.isVariable = true := by
      cases hcapacity : Cpp.capacity? a with
      | none => simp [hcapacity] at h
      | some capacity => exact ⟨capacity, rfl, by simpa [hcapacity] using h⟩
    rw [hcapacity]
    dsimp only
    rw [hlength, if_pos rfl]
    exact prints_array hlib hs hcapacity _ _
  refine prints_otherwise (prints_single (prints_ifSo harray (fun harray => ?_) fun hplain => ?_))
  · obtain ⟨capacity, hcapacity⟩ := Option.isSome_iff_exists.mp harray
    have hlength : capacity.isVariable = false := by simpa [hcapacity] using h
    rw [hcapacity]
    dsimp only
    rw [hlength, if_neg Bool.false_ne_true]
    exact prints_array hlib hs hcapacity _ _
  · have hnone : Cpp.capacity? a = none := by simpa using hplain
    rw [hnone]
    exact prints_otherwise (prints_cppSingle hlib hs)

theorem prints_constants (hlib : lib.naming.encoder = l.encoder) :
    Prints (nodes lib again (typeScope l c catalog t includes) cppConstants) ()
      (t.constants.flatMap (Cpp.constant l)) := by
  have heach : Prints (node lib again (typeScope l c catalog t includes)
      (eachOf ["T", "constants"] cppConstant)) () (t.constants.flatMap (Cpp.constant l)) :=
    prints_eachOf (resolve_attributes rfl) fun _ _ _ => prints_constant hlib (Scope.bare_ofData _)
  refine Prints.of_eq (prints_nodes_cons heach (prints_single (prints_textOf ""))) ?_
  exact List.append_nil _

theorem prints_fields (hlib : lib.naming.encoder = l.encoder) :
    Prints (nodes lib again (typeScope l c catalog t includes) cppFields) ()
      (t.fields.flatMap (Cpp.field l)) := by
  refine prints_single (prints_eachOf (resolve_attributes rfl) fun a _ facts => ?_)
  have hfield : Prints (nodes lib again
      (attributeScope l a (typeScope l c catalog t includes) facts) cppField) () (Cpp.field l a) :=
    prints_field hlib (Scope.bare_ofData _)
  have hall := prints_nodes_cons (prints_textOf "") <| prints_nodes_append hfield <|
    prints_single (prints_textOf "")
  exact Prints.of_eq hall (List.append_nil _)

end Attributes

theorem prints_tree (hlib : lib.naming.encoder = l.encoder) :
    Prints (nodes lib again (typeScope l c catalog t includes) cppTree) ()
      (Cpp.header l c t includes) :=
  prints_nodes_append prints_top <| prints_nodes_append (prints_opening hlib) <|
    prints_nodes_append (prints_constants hlib) <|
    prints_nodes_append (prints_fields hlib) prints_closing

end Printing

theorem render_cppTree {lib : Library} {l : Language} (hlib : lib.naming.encoder = l.encoder)
    (names : UniqueNames) (id : String) (c : Context) (catalog : Catalog) (t : CompositeType)
    (includes : List String) : ∃ names',
    render lib names id cppTree (Data.forType l c catalog t includes) =
      (.ok (), Cpp.header l c t includes, names') :=
  render_of_prints (fun _ => prints_tree hlib) names id

end Template
end SchemaForge
