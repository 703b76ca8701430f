import SchemaForge.Proofs.Target.PythonTree
import SchemaForge.Proofs.Template.Scopes

/-! The Python files of types and namespaces. Rendering their templates ends for all data, and
prints texts that can be written down: a class with a line for each constant and field, and a
package with an import of each type that is placed in the namespace. -/

namespace SchemaForge

namespace Python

def className (l : Language) (k : TypeKey) : String :=
  l.encoder.encode k.shortName ++ "_" ++ toString k.version.major.toNat ++ "_" ++
    toString k.version.minor.toNat

def top (c : Context) (t : CompositeType) : List Char :=
  "#\n# ".toList ++ t.fullName.toList ++ " version ".toList ++
    (toString t.version.major.toNat).toList ++ ".".toList ++
    (toString t.version.minor.toNat).toList ++ "\n# Generated by dsdlgen ".toList ++
    c.generatorVersion.toList ++
    ". Do not edit.\n#\n\nimport dataclasses\n\n\n@dataclasses.dataclass\n".toList

def classLine (name : String) : List Char :=
  "class ".toList ++ name.toList ++ ":\n".toList

def constant (l : Language) (a : Attribute) : List Char :=
  "    ".toList ++ (l.encoder.encode a.name).toList ++ " = ".toList ++
    Template.constantText l a ++ "\n".toList

def isArray (a : Attribute) : Bool :=
  match a.dataType with
  | .array _ _ => true
  | _ => false

def fieldLine (l : Language) (a : Attribute) : List Char :=
  let name := (l.encoder.encode (Text.snakeCase a.name)).toList
  if isArray a then
    "    ".toList ++ name ++ ": list = dataclasses.field(default_factory=list)\n".toList
  else
    "    ".toList ++ name ++ ": ".toList ++
      (Data.dataTypeName l (Data.typeName l) a.dataType).toList ++ " = None\n".toList

def field (l : Language) (a : Attribute) : List Char :=
  if a.isPadding then [] else fieldLine l a

/-- The lines of a class; one without fields passes. -/
def body (l : Language) (t : CompositeType) : List Char :=
  t.constants.flatMap (constant l) ++ t.fields.flatMap (field l) ++
    if t.fields.isEmpty then "    pass\n".toList else []

def typeFile (l : Language) (c : Context) (t : CompositeType) : List Char :=
  top c t ++ (classLine (className l t.key) ++ body l t)

def spaceTop (c : Context) (n : Namespace) : List Char :=
  "#\n# Namespace ".toList ++ n.fullName.toList ++ "\n# Generated by dsdlgen ".toList ++
    c.generatorVersion.toList ++ ". Do not edit.\n#\n\n".toList

def importLine (stem : String) : List Char :=
  "from .".toList ++ stem.toList ++ " import ".toList ++ stem.toList ++ " as ".toList ++
    stem.toList ++ "\n".toList

def spaceFile (c : Context) (n : Namespace) : List Char :=
  spaceTop c n ++ n.types.flatMap fun entry => importLine (Layout.typeStem entry.1)

end Python

namespace Template

open Json (obj arr str)

section Printing

open Render

variable {lib : Library} {again : Again} {l : Language} {c : Context} {catalog : Catalog}
  {t : CompositeType} {includes : List String} {s : Scope} {a : Attribute}
  {facts : List (String × Json)}

theorem prints_pythonTop : Prints (nodes lib again (typeScope l c catalog t includes) pythonTop) ()
    (Python.top c t ++ "class ".toList) := by
  have hall := prints_nodes_cons (prints_textOf "#\n# ") <|
    prints_nodes_cons (@prints_fullName lib again l c catalog t includes) <|
    prints_nodes_cons (prints_textOf " version ") <| prints_nodes_cons prints_major <|
    prints_nodes_cons (prints_textOf ".") <| prints_nodes_cons prints_minor <|
    prints_nodes_cons (prints_textOf "\n# Generated by dsdlgen ") <|
    prints_nodes_cons prints_generatorVersion <| prints_single (prints_textOf
      (". Do not edit.\n#\n\nimport dataclasses\n\n\n@dataclasses.dataclass\n" ++ "class "))
  rw [String.toList_append] at hall
  refine Prints.of_eq hall ?_
  unfold Python.top
  simp only [List.append_assoc]

theorem prints_pythonClass (hlib : lib.naming.encoder = l.encoder) :
    Prints (nodes lib again (typeScope l c catalog t includes) pythonClass) ()
      ((Python.className l t.key).toList ++ ":\n".toList) := by
  have hid : Prints (node lib again (typeScope l c catalog t includes)
      (helped "id" ["T", "short_name"])) () (l.encoder.encode t.shortName).toList :=
    prints_id hlib (resolve_type rfl rfl)
  have hall := prints_nodes_cons hid <| prints_nodes_cons (prints_textOf "_") <|
    prints_nodes_cons prints_major <| prints_nodes_cons (prints_textOf "_") <|
    prints_nodes_cons prints_minor <| prints_single (prints_textOf ":\n")
  refine Prints.of_eq hall ?_
  unfold Python.className
  simp only [String.toList_append, List.append_assoc]
  rfl

theorem prints_pythonConstant (hlib : lib.naming.encoder = l.encoder) (hs : s.Bare) :
    Prints (nodes lib again (attributeScope l a s facts) pythonConstant) ()
      (Python.constant l a) := by
  have hid : Prints (node lib again (attributeScope l a s facts) (helped "id" ["name"])) ()
      (l.encoder.encode a.name).toList := prints_id hlib (resolve_attribute hs rfl rfl rfl)
  have hall := prints_nodes_cons (prints_textOf "    ") <| prints_nodes_cons hid <|
    prints_nodes_cons (prints_textOf " = ") <| prints_nodes_cons (prints_constantText hs) <|
    prints_single (prints_textOf "\n")
  refine Prints.of_eq hall ?_
  unfold Python.constant
  simp only [List.append_assoc]

theorem prints_pythonLine (hlib : lib.naming.encoder = l.encoder) (hs : s.Bare) :
    Prints (node lib again (attributeScope l a s facts)
      (ifSo ["is_array"] true pythonArray (some pythonSingle))) () (Python.fieldLine l a) := by
  have harray : (attributeScope l a s facts).resolve (pathOf ["is_array"]) =
      .ok (some (.bool (Python.isArray a))) := by
    obtain ⟨name, kind, dataType⟩ := a
    cases dataType <;> exact resolve_attribute hs rfl rfl rfl
  have hname : Prints (node lib again (attributeScope l a s facts)
      (helpedTwice "id" "snake_case" ["name"])) ()
        (l.encoder.encode (Text.snakeCase a.name)).toList :=
    prints_idOfSnake hlib (resolve_attribute hs rfl rfl rfl)
  have htype : Prints (node lib again (attributeScope l a s facts) (valueOf ["type_name"])) ()
      (Data.dataTypeName l (Data.typeName l) a.dataType).toList :=
    prints_valueOf rfl (v := str (Data.dataTypeName l (Data.typeName l) a.dataType))
      (resolve_attribute hs rfl rfl rfl)
  unfold Python.fieldLine
  refine prints_ifSo harray (fun h => ?_) fun h => ?_
  · rw [h, if_pos rfl]
    refine Prints.of_eq (prints_nodes_cons (prints_textOf "    ") <| prints_nodes_cons hname <|
      prints_single (prints_textOf _)) ?_
    rw [List.append_assoc]
  · rw [h, if_neg Bool.false_ne_true]
    refine Prints.of_eq (prints_otherwise (prints_nodes_cons (prints_textOf "    ") <|
      prints_nodes_cons hname <| prints_nodes_cons (prints_textOf ": ") <|
      prints_nodes_cons htype <| prints_single (prints_textOf " = None\n"))) ?_
    simp only [List.append_assoc]

theorem prints_pythonField (hlib : lib.naming.encoder = l.encoder) (hs : s.Bare) :
    Prints (nodes lib again (attributeScope l a s facts) pythonField) () (Python.field l a) := by
  have hpadding : (attributeScope l a s facts).resolve (pathOf ["is_padding"]) =
      .ok (some (.bool a.isPadding)) := resolve_attribute hs rfl rfl rfl
  have hline : Prints (nodes lib again (attributeScope l a s facts) [
      textOf "", ifSo ["is_array"] true pythonArray (some pythonSingle), textOf ""]) ()
        (Python.fieldLine l a) := by
    refine Prints.of_eq (prints_nodes_cons prints_nothing <|
      prints_nodes_cons (prints_pythonLine hlib hs) <| prints_single prints_nothing) ?_
    rw [List.nil_append, List.append_nil]
  have hshown := prints_unlessSo hpadding fun _ => hline
  have hall := prints_nodes_cons prints_nothing <| prints_nodes_cons hshown <|
    prints_single prints_nothing
  refine Prints.of_eq hall ?_
  rw [List.nil_append, List.append_nil]
  rfl

theorem prints_pythonBody (hlib : lib.naming.encoder = l.encoder) :
    Prints (nodes lib again (typeScope l c catalog t includes) pythonBody) ()
      (Python.body l t) := by
  have hconstants : Prints (node lib again (typeScope l c catalog t includes)
      (eachOf ["T", "constants"] pythonConstant)) () (t.constants.flatMap (Python.constant l)) :=
    prints_eachOf (resolve_attributes rfl) fun _ _ _ =>
      prints_pythonConstant hlib (Scope.bare_ofData _)
  have hfields : Prints (node lib again (typeScope l c catalog t includes)
      (eachOf ["T", "fields"] pythonField)) () (t.fields.flatMap (Python.field l)) :=
    prints_eachOf (resolve_attributes rfl) fun _ _ _ =>
      prints_pythonField hlib (Scope.bare_ofData _)
  have hpass := @prints_unlessSo lib again (typeScope l c catalog t includes) _ ["T", "fields"] _ _
    (resolve_attributes rfl) fun _ => prints_single (prints_textOf "    pass\n")
  have hall := prints_nodes_cons hconstants <| prints_nodes_cons prints_nothing <|
    prints_nodes_cons hfields <| prints_nodes_cons prints_nothing <|
    prints_nodes_cons hpass <| prints_single prints_nothing
  refine Prints.of_eq hall ?_
  unfold Python.body
  rw [List.nil_append, List.nil_append, List.append_nil, List.append_assoc]
  cases t.fields <;> rfl

theorem prints_pythonTypeTree (hlib : lib.naming.encoder = l.encoder) :
    Prints (nodes lib again (typeScope l c catalog t includes) pythonTypeTree) ()
      (Python.typeFile l c t) := by
  refine Prints.of_eq (prints_nodes_append prints_pythonTop <|
    prints_nodes_append (prints_pythonClass hlib) (prints_pythonBody hlib)) ?_
  unfold Python.typeFile Python.classLine
  simp only [List.append_assoc]

theorem prints_pythonSpaceTree {n : Namespace} :
    Prints (nodes lib again (spaceScope l c n) pythonSpaceTree) () (Python.spaceFile c n) := by
  have himports : Prints (node lib again (spaceScope l c n) (eachOf ["N", "types"] [
      textOf "from .", valueOf ["stem"], textOf " import ", valueOf ["stem"], textOf " as ",
      valueOf ["stem"], textOf "\n"])) ()
        (n.types.flatMap fun entry => Python.importLine (Layout.typeStem entry.1)) := by
    refine prints_eachOf resolve_placedTypes fun entry _ facts => ?_
    have hstem := @prints_stem lib again l _ entry.1 entry.2 facts
      (Scope.bare_ofData (Data.forNamespace l c n).sorted)
    refine Prints.of_eq (prints_nodes_cons (prints_textOf "from .") <| prints_nodes_cons hstem <|
      prints_nodes_cons (prints_textOf " import ") <| prints_nodes_cons hstem <|
      prints_nodes_cons (prints_textOf " as ") <| prints_nodes_cons hstem <|
      prints_single (prints_textOf "\n")) ?_
    unfold Python.importLine
    simp only [List.append_assoc]
  have hall := prints_nodes_cons (prints_textOf "#\n# Namespace ") <|
    prints_nodes_cons prints_spaceName <|
    prints_nodes_cons (prints_textOf "\n# Generated by dsdlgen ") <|
    prints_nodes_cons prints_spaceVersion <|
    prints_nodes_cons (prints_textOf ". Do not edit.\n#\n\n") <| prints_nodes_cons himports <|
    prints_single prints_nothing
  refine Prints.of_eq hall ?_
  unfold Python.spaceFile Python.spaceTop
  simp only [List.append_assoc, List.append_nil]

end Printing

theorem render_pythonTypeTree {lib : Library} {l : Language}
    (hlib : lib.naming.encoder = l.encoder) (names : UniqueNames) (id : String) (c : Context)
    (catalog : Catalog) (t : CompositeType) (includes : List String) : ∃ names',
    render lib names id pythonTypeTree (Data.forType l c catalog t includes) =
      (.ok (), Python.typeFile l c t, names') :=
  render_of_prints (fun _ => prints_pythonTypeTree hlib) names id

theorem render_pythonSpaceTree (lib : Library) (l : Language) (names : UniqueNames) (id : String)
    (c : Context) (n : Namespace) : ∃ names',
    render lib names id pythonSpaceTree (Data.forNamespace l c n) =
      (.ok (), Python.spaceFile c n, names') :=
  render_of_prints (fun _ => prints_pythonSpaceTree) names id

end Template

end SchemaForge
