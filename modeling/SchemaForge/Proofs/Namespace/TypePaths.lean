import SchemaForge.Proofs.Files.Following
import SchemaForge.Proofs.Layout

/-! When two types have one path. The folders of a path are the encoded components of the namespace,
and the name after them starts with the stem of the type's file. What an extension adds is the same
for all types, even where it holds slashes, so that two paths agree exactly if the folders and the
stems do. -/

namespace SchemaForge.Layout

variable {l : Layout} {k k' : TypeKey}

section File

theorem component?_of_underscore {segment : String} (h : '_' ∈ segment.toList) :
    Path.component? segment = some (.normal segment) := by
  have hempty : segment ≠ "" := by
    rintro rfl
    simp at h
  have hdot : segment ≠ "." := by
    rintro rfl
    simp at h
  have hdots : segment ≠ ".." := by
    rintro rfl
    simp at h
  simp [Path.component?, Path.isVoid, hempty, hdot, hdots]

/-- The file of a type has a name that starts with the stem. The rest of the name and the components
after it come from the extension and are the same for all types. -/
theorem exists_components_typeFileName (l : Layout) : ∃ (rest : String) (more : List Path.Component),
    ∀ k : TypeKey, '/' ∉ k.shortName.toList →
      Path.components ⟨l.typeFileName k⟩ = .normal (typeStem k ++ rest) :: more := by
  have hne : Text.splitAt '/' l.extension.toList ≠ [] := Text.splitAt_ne_nil
  obtain ⟨first, pieces, hextension⟩ := List.exists_cons_of_ne_nil hne
  refine ⟨String.ofList first, (pieces.map String.ofList).filterMap Path.component?, ?_⟩
  intro k hshort
  have hstem : '/' ∉ (typeStem k).toList := by
    have hdigits (n : Nat) : '/' ∉ (toString n).toList := notMem_toString (by decide) n
    simp only [toList_typeStem, List.mem_append, List.mem_cons, hshort, hdigits]
    decide
  obtain ⟨_, _, hsame, hsplit⟩ := Text.splitAt_append_left l.extension.toList hstem
  obtain ⟨rfl, rfl⟩ := List.cons.inj (hextension.symm.trans hsame)
  have hsegments : Path.segments ⟨l.typeFileName k⟩ =
      (typeStem k ++ String.ofList first) :: pieces.map String.ofList := by
    rw [Path.segments, typeFileName, String.toList_append, hsplit, List.map_cons,
      String.ofList_append, String.ofList_toList]
  have hname : '_' ∈ (typeStem k ++ String.ofList first).toList := by simp [toList_typeStem]
  rw [(Path.components_of_onward (onward_typeFileName hshort)).2, hsegments, List.filterMap_cons,
    component?_of_underscore hname]

end File

/-- The components of two paths agree exactly if the parts that they are made of do. -/
theorem components_relativeTypePath_inj (hencoder : l.encoder.PlainAffixes)
    (henabled : l.encoder.enabled = true) (hshort : '/' ∉ k.shortName.toList)
    (hshort' : '/' ∉ k'.shortName.toList) :
    (l.relativeTypePath k).components = (l.relativeTypePath k').components ↔
      l.typeParts k = l.typeParts k' := by
  obtain ⟨rest, more, hfile⟩ := l.exists_components_typeFileName
  have hparts (k : TypeKey) (hshort : '/' ∉ k.shortName.toList) :
      (l.relativeTypePath k).components =
        (l.encodeAll k.namespaceComponents ++ [typeStem k ++ rest]).map .normal ++ more := by
    rw [components_relativeTypePath hencoder henabled (onward_typeFileName hshort), hfile k hshort]
    simp
  have hnormal : Function.Injective Path.Component.normal := fun _ _ => Path.Component.normal.inj
  have hstem : typeStem k ++ rest = typeStem k' ++ rest ↔ typeStem k = typeStem k' := by
    rw [← String.toList_inj, String.toList_append, String.toList_append, List.append_left_inj,
      String.toList_inj]
  rw [hparts k hshort, hparts k' hshort', List.append_left_inj,
    (List.map_injective_iff.mpr hnormal).eq_iff, List.append_singleton_inj, hstem, typeStem_inj,
    typeParts_inj]

theorem relativeTypePath_of_typeParts (h : l.typeParts k = l.typeParts k') :
    l.relativeTypePath k = l.relativeTypePath k' := by
  obtain ⟨hfolders, hfile⟩ := List.append_singleton_inj.mp h
  rw [relativeTypePath, relativeTypePath, relativeFolder, relativeFolder, hfolders, hfile]

theorem components_typePath_inj (hencoder : l.encoder.PlainAffixes)
    (henabled : l.encoder.enabled = true) (hshort : '/' ∉ k.shortName.toList)
    (hshort' : '/' ∉ k'.shortName.toList) :
    (l.typePath k).components = (l.typePath k').components ↔ l.typeParts k = l.typeParts k' := by
  rw [typePath, typePath,
    Path.components_join (onward_relativeTypePath hencoder henabled (onward_typeFileName hshort)),
    Path.components_join (onward_relativeTypePath hencoder henabled (onward_typeFileName hshort')),
    List.append_right_inj, components_relativeTypePath_inj hencoder henabled hshort hshort']

theorem typePath_inj (hencoder : l.encoder.PlainAffixes) (henabled : l.encoder.enabled = true)
    (hshort : '/' ∉ k.shortName.toList) (hshort' : '/' ∉ k'.shortName.toList) :
    l.typePath k = l.typePath k' ↔ l.typeParts k = l.typeParts k' := by
  constructor
  · intro heq
    rw [← components_typePath_inj hencoder henabled hshort hshort', heq]
  · intro hparts
    rw [typePath, typePath, relativeTypePath_of_typeParts hparts]

theorem isName_typeParts (hencoder : l.encoder.PlainAffixes)
    (henabled : l.encoder.enabled = true) (hshort : '/' ∉ k.shortName.toList)
    (hext : '/' ∉ l.extension.toList) : ∀ part ∈ l.typeParts k, Path.IsName part := by
  rw [typeParts, List.forall_mem_append, List.forall_mem_singleton]
  refine ⟨fun part hpart => ?_, isName_typeFileName hshort hext⟩
  obtain ⟨c, hc, rfl⟩ := List.mem_map.mp hpart
  have hne : c ≠ "" := by simpa using (List.mem_filter.mp hc).2
  exact hencoder.isName_encode henabled hne

theorem locate_typePath_inj (hencoder : l.encoder.PlainAffixes)
    (henabled : l.encoder.enabled = true) (hshort : '/' ∉ k.shortName.toList)
    (hshort' : '/' ∉ k'.shortName.toList) (hext : '/' ∉ l.extension.toList) (cwd : Location) :
    (l.typePath k).locate cwd = (l.typePath k').locate cwd ↔ l.typeParts k = l.typeParts k' := by
  rw [locate_typePath (isName_typeParts hencoder henabled hshort hext),
    locate_typePath (isName_typeParts hencoder henabled hshort' hext), List.append_right_inj]

end SchemaForge.Layout
