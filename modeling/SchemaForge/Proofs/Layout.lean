import SchemaForge.Layout
import SchemaForge.Proofs.Files.Components
import SchemaForge.Proofs.Naming.Identifiers

/-! The paths of types. Encoded components and file names are names of files, so that two types have
one path exactly if they have the same short name and version and their namespaces encode alike.
Whatever the short name, the folders of a path are names; only a slash in the short name or in the
extension gives the rest of the path another shape. -/

namespace SchemaForge

theorem TypeKey.components_fullName {k : TypeKey} (h : ∀ c ∈ Text.components k.fullName, c ≠ "") :
    Text.components k.fullName = k.namespaceComponents ++ [k.shortName] := by
  rw [namespaceComponents, namespaceName, shortName]
  cases hparent : Text.parentName? k.fullName with
  | none =>
    have hdot := Text.parentName?_eq_none_iff.mp hparent
    have hlast : Text.lastComponent k.fullName = k.fullName := by
      rw [Text.lastComponent, Text.splitLast?_eq_none_iff.mpr hdot]
    have hnone : (Text.components "").filter (fun c => !c.isEmpty) = [] := rfl
    rw [hlast, Option.getD_none, hnone, Text.components, Text.splitAt_of_notMem hdot]
    simp
  | some upper =>
    obtain ⟨last, hname, hdot⟩ := Text.parentName?_eq_some_iff.mp hparent
    have htext : k.fullName.toList = upper.toList ++ '.' :: last.toList := by simp [hname]
    have hlast : Text.lastComponent k.fullName = last := by
      rw [Text.lastComponent, htext, Text.splitLast?_append_sep hdot]
      exact String.ofList_toList
    have hcomponents : Text.components k.fullName = Text.components upper ++ [last] := by
      rw [hname, Text.components_append hdot]
    rw [hcomponents, List.forall_mem_append] at h
    have hkept : (Text.components upper).filter (fun c => !c.isEmpty) = Text.components upper := by
      rw [List.filter_eq_self]
      intro c hc
      simpa using h.1 c hc
    rw [hcomponents, hlast, Option.getD_some, hkept]

theorem TypeKey.dot_notMem_shortName (k : TypeKey) : '.' ∉ k.shortName.toList := by
  unfold shortName Text.lastComponent
  split
  · rename_i lead last hsplit
    rw [String.toList_ofList]
    exact Text.sep_notMem_of_splitLast? hsplit
  · rename_i hsplit
    exact Text.splitLast?_eq_none_iff.mp hsplit

theorem TypeKey.eq_of_namespaceName {k k' : TypeKey} (h : ∀ c ∈ Text.components k.fullName, c ≠ "")
    (h' : ∀ c ∈ Text.components k'.fullName, c ≠ "") (hspace : k.namespaceName = k'.namespaceName)
    (hshort : k.shortName = k'.shortName) (hversion : k.version = k'.version) : k = k' := by
  have hname : k.fullName = k'.fullName := by
    rw [← Text.components_inj, components_fullName h, components_fullName h', namespaceComponents,
      namespaceComponents, hspace, hshort]
  obtain ⟨name, version⟩ := k
  obtain ⟨name', version'⟩ := k'
  cases hname
  cases hversion
  rfl

theorem TypeKey.slash_notMem_shortName {k : TypeKey}
    (h : ∀ c ∈ Text.components k.fullName, c ≠ "" ∧ ∀ ch ∈ c.toList, Encoder.isPlain ch = true) :
    '/' ∉ k.shortName.toList := by
  rw [components_fullName fun c hc => (h c hc).1, List.forall_mem_append,
    List.forall_mem_singleton] at h
  exact fun hslash => absurd (h.2.2 '/' hslash) (by decide)

section Builtin

/-- What the rules of the built-in languages have in common: names are encoded, and the files of
namespaces have names. -/
structure LanguageRules.Regular (rules : LanguageRules) : Prop where
  stropping : rules.language.stropping = true
  file : Path.IsName (rules.language.namespaceStem ++ rules.language.extension)

theorem LanguageRules.Regular.slash_notMem_extension {rules : LanguageRules} (h : rules.Regular) :
    '/' ∉ rules.language.extension.toList := by
  intro hslash
  apply h.file.noSlash
  rw [String.toList_append]
  exact List.mem_append_right _ hslash

/-- One look at each table: its rules are regular, and it lists no empty word. -/
theorem Target.regular_table (t : Target) :
    ((Rules.languageRules? t.table).all fun rules => rules.language.stropping &&
      decide (Path.IsName (rules.language.namespaceStem ++ rules.language.extension))) = true ∧
    "" ∉ Rules.listedWords t.table := by
  cases t <;> decide +kernel

theorem Target.regular_of_load {t : Target} {rules : LanguageRules}
    (h : t.draft.load = .ok rules) : rules.Regular := by
  have htest := of_load h t.regular_table.1
  rw [Bool.and_eq_true, decide_eq_true_eq] at htest
  exact ⟨htest.1, htest.2⟩

end Builtin

namespace Encoder

variable {e : Encoder} {token : List Char}

section Nonempty

theorem encodeChar_ne_nil (e : Encoder) (c : Char) : e.encodeChar c ≠ [] := by
  simp [encodeChar, hexCode, Nat.toDigits_ne_nil]

theorem replaceIllegal_ne_nil (h : token ≠ []) : e.replaceIllegal token ≠ [] := by
  cases token with
  | nil => exact absurd rfl h
  | cons c rest =>
    simp only [replaceIllegal, replaceRest, Bool.false_eq_true, if_false]
    split_ifs <;> simp [encodeChar_ne_nil]

theorem strop_ne_nil (h : token ≠ []) : e.strop token ≠ [] := by
  unfold strop
  split_ifs <;> simp [h]

theorem correctStart_ne_nil (h : token ≠ []) : e.correctStart token ≠ [] := by
  rcases e.correctStart_cases token with ⟨-, hsame⟩ | ⟨rest, -, hresult⟩
  · rwa [hsame]
  · rw [hresult]
    split_ifs <;> simp [encodeChar_ne_nil]

theorem splitUnderscores_ne_nil (h : token ≠ []) : e.splitUnderscores token ≠ [] := by
  unfold splitUnderscores
  split
  · simp
  · simp
  · exact absurd rfl h

theorem encodeChars_ne_nil (h : token ≠ []) : e.encodeChars token ≠ [] := by
  have hstropped : e.strop (e.replaceIllegal token) ≠ [] := strop_ne_nil (replaceIllegal_ne_nil h)
  have hcorrected : (if e.guardStart then e.correctStart (e.strop (e.replaceIllegal token))
      else e.strop (e.replaceIllegal token)) ≠ [] := by
    split
    · exact correctStart_ne_nil hstropped
    · exact hstropped
  unfold encodeChars
  split
  · dsimp only
    split
    · exact splitUnderscores_ne_nil hcorrected
    · exact hcorrected
  · exact h

end Nonempty

theorem IsFor.isReserved_nil {t : Target} {e : Encoder} (he : e.IsFor t) :
    e.isReserved [] = false := by
  have hwords : [] ∉ e.words := fun hmem => t.regular_table.2 (he.mem_words.mp hmem)
  have hpatterns : e.patterns.any (·.isMatch []) = false := by
    cases t with
    | c =>
      obtain ⟨e', he', hfamily, -⟩ := exists_cFamily_c
      rw [he.unique he', hfamily.patterns]
      decide
    | cpp =>
      obtain ⟨e', he', hfamily, -⟩ := exists_cFamily_cpp
      rw [he.unique he', hfamily.patterns]
      decide
    | python =>
      obtain ⟨e', he', -, -, -, -, -, hpatterns, -⟩ := exists_python
      rw [he.unique he', hpatterns]
      decide
    | javaScript =>
      obtain ⟨e', he', -, -, -, -, hpatterns, -⟩ := exists_javaScript
      rw [he.unique he', hpatterns]
      rfl
  rw [isReserved, hpatterns, Bool.or_false, Bool.eq_false_iff, Ne, List.contains_iff_mem]
  exact hwords

theorem encode_empty (h : e.isReserved [] = false) : e.encode "" = "" := by
  have hstrop : e.strop [] = [] := by simp [strop, h]
  simp [encode, encodeChars, replaceIllegal, hstrop, correctStart, guardedStart?, splitUnderscores]

theorem isName_of_isPlain (hne : token ≠ []) (hplain : ∀ c ∈ token, isPlain c = true) :
    Path.IsName (String.ofList token) := by
  obtain ⟨c, hc⟩ := List.exists_mem_of_ne_nil token hne
  rw [← String.toList_ofList (l := token)] at hc hplain
  apply Path.IsName.of_mem hc
  · rintro rfl
    exact absurd (hplain '.' hc) (by decide)
  · intro hslash
    exact absurd (hplain '/' hslash) (by decide)

theorem PlainAffixes.isName_encode (h : e.PlainAffixes) (henabled : e.enabled = true)
    {token : String} (hne : token ≠ "") : Path.IsName (e.encode token) := by
  have hnil : token.toList ≠ [] := by simpa using hne
  exact isName_of_isPlain (encodeChars_ne_nil hnil) (h.encodeChars henabled)

end Encoder

namespace Layout

variable {l : Layout} {k k' : TypeKey}

section Stem

theorem notMem_toString {c : Char} (hc : c.isDigit = false) (n : Nat) :
    c ∉ (toString n).toList := by
  intro hmem
  rw [Nat.toString_eq_repr, Nat.toList_repr] at hmem
  rw [Nat.isDigit_of_mem_toDigits (by decide) (by decide) hmem] at hc
  cases hc

theorem toString_inj {n m : Nat} : toString n = toString m ↔ n = m := by
  constructor
  · intro h
    have hdigits : Nat.toDigits 10 n = Nat.toDigits 10 m := by
      rw [← Nat.toList_repr, ← Nat.toList_repr, ← Nat.toString_eq_repr, ← Nat.toString_eq_repr, h]
    have hvalue := congrArg (fun digits => Nat.ofDigitChars 10 digits 0) hdigits
    simpa using hvalue
  · rintro rfl
    rfl

theorem toList_typeStem (k : TypeKey) : (typeStem k).toList =
    (k.shortName.toList ++ '_' :: (toString k.version.major.toNat).toList) ++
      '_' :: (toString k.version.minor.toNat).toList := by
  simp [typeStem]

theorem append_sep_inj {sep : Char} {cs cs' ds ds' : List Char} (h : sep ∉ ds) (h' : sep ∉ ds') :
    cs ++ sep :: ds = cs' ++ sep :: ds' ↔ cs = cs' ∧ ds = ds' := by
  constructor
  · intro heq
    have hsplit : Text.splitLast? sep (cs ++ sep :: ds) = some (cs, ds) :=
      Text.splitLast?_append_sep h
    rw [heq, Text.splitLast?_append_sep h'] at hsplit
    simpa [eq_comm] using hsplit
  · rintro ⟨rfl, rfl⟩
    rfl

theorem typeStem_inj :
    typeStem k = typeStem k' ↔ k.shortName = k'.shortName ∧ k.version = k'.version := by
  -- Numbers hold no underscore, so the last two underscores are those before the numbers.
  have hdigits (n : Nat) : '_' ∉ (toString n).toList := notMem_toString (by decide) n
  rw [← String.toList_inj, toList_typeStem, toList_typeStem, append_sep_inj (hdigits _) (hdigits _),
    append_sep_inj (hdigits _) (hdigits _)]
  simp only [String.toList_inj, toString_inj, UInt8.toNat_inj, and_assoc]
  rw [← Version.mk.injEq]

end Stem

def typeParts (l : Layout) (k : TypeKey) : List String :=
  l.encodeAll k.namespaceComponents ++ [l.typeFileName k]

theorem typePath_eq (l : Layout) (k : TypeKey) :
    l.typePath k = l.outputDir.join (Path.ofParts (l.typeParts k)) := by
  rw [typePath, relativeTypePath, relativeFolder, typeParts, Path.ofParts, Path.ofParts,
    List.foldl_append, List.foldl_cons, List.foldl_nil]

theorem typeParts_inj : l.typeParts k = l.typeParts k' ↔
    l.encodeAll k.namespaceComponents = l.encodeAll k'.namespaceComponents ∧
      k.shortName = k'.shortName ∧ k.version = k'.version := by
  have hfile : l.typeFileName k = l.typeFileName k' ↔ typeStem k = typeStem k' := by
    rw [typeFileName, typeFileName, ← String.toList_inj, String.toList_append, String.toList_append,
      List.append_left_inj, String.toList_inj]
  rw [typeParts, typeParts, List.append_singleton_inj, hfile, typeStem_inj]

theorem isName_typeFileName (hshort : '/' ∉ k.shortName.toList) (hext : '/' ∉ l.extension.toList) :
    Path.IsName (l.typeFileName k) := by
  have hdigits (n : Nat) : '/' ∉ (toString n).toList := notMem_toString (by decide) n
  have htext : (l.typeFileName k).toList = (typeStem k).toList ++ l.extension.toList :=
    String.toList_append
  apply Path.IsName.of_mem (c := '_')
  · simp [htext, toList_typeStem]
  · decide
  · rw [htext, toList_typeStem]
    simp only [List.mem_append, List.mem_cons, hshort, hext, hdigits]
    decide

section Shape

theorem components_relativeFolder (hencoder : l.encoder.PlainAffixes)
    (henabled : l.encoder.enabled = true) (components : List String) :
    (l.relativeFolder components).components =
      ((l.encodeAll components).filter (· ≠ "")).map .normal := by
  apply Path.components_ofParts
  intro part hpart
  obtain ⟨token, -, rfl⟩ := List.mem_map.mp hpart
  by_cases hempty : l.encoder.encode token = ""
  · exact Or.inl hempty
  · right
    apply Encoder.isName_of_isPlain _ (hencoder.encodeChars henabled)
    rintro hnil
    exact hempty (congrArg String.ofList hnil)

theorem filter_encodeAll {components : List String} (h : ∀ c ∈ components, c ≠ "") :
    (l.encodeAll components).filter (· ≠ "") = l.encodeAll components := by
  rw [List.filter_eq_self]
  intro part hpart
  obtain ⟨c, hc, rfl⟩ := List.mem_map.mp hpart
  have hnil : c.toList ≠ [] := by simpa using h c hc
  simpa [Encoder.encode] using Encoder.encodeChars_ne_nil hnil

def fileEnd (l : Layout) (k : TypeKey) : List Char :=
  '_' :: (toString k.version.major.toNat).toList ++
    '_' :: (toString k.version.minor.toNat).toList ++
    l.extension.toList

theorem toList_typeFileName (l : Layout) (k : TypeKey) :
    (l.typeFileName k).toList = k.shortName.toList ++ l.fileEnd k := by
  rw [typeFileName, String.toList_append, toList_typeStem, fileEnd]
  simp

theorem slash_mem_fileEnd : '/' ∈ l.fileEnd k ↔ '/' ∈ l.extension.toList := by
  have hdigits (n : Nat) : '/' ∉ (toString n).toList := notMem_toString (by decide) n
  simp only [fileEnd, List.mem_append, List.mem_cons, hdigits]
  simp

theorem isAbsolute_typeFileName :
    Path.isAbsolute ⟨l.typeFileName k⟩ = true ↔ k.shortName.toList.head? = some '/' := by
  rw [Path.isAbsolute, toList_typeFileName]
  cases k.shortName.toList with
  | nil => simp [fileEnd]
  | cons c rest => simp

theorem onward_typeFileName (hshort : '/' ∉ k.shortName.toList) :
    Path.Onward (Path.components ⟨l.typeFileName k⟩) := by
  have htext : l.typeFileName k =
      String.ofList ((typeStem k).toList ++ l.extension.toList) := by
    rw [← String.toList_append, String.ofList_toList, typeFileName]
  have hdigits (n : Nat) : '/' ∉ (toString n).toList := notMem_toString (by decide) n
  rw [htext]
  apply Path.onward_of_start (c := '_')
  · rw [toList_typeStem]
    simp only [List.mem_append, List.mem_cons, hshort, hdigits]
    decide
  · simp [toList_typeStem]
  · decide

/-- A short name that does not start at the root leads to names, if the extension has no slash. -/
theorem normal_of_mem_typeFileName (hshort : k.shortName.toList.head? ≠ some '/')
    (hext : '/' ∉ l.extension.toList) :
    ∀ c ∈ Path.components ⟨l.typeFileName k⟩, ∃ name, c = .normal name := by
  have habsolute : Path.isAbsolute ⟨l.typeFileName k⟩ = false :=
    Bool.eq_false_iff.mpr (mt isAbsolute_typeFileName.mp hshort)
  have hend : '/' ∉ l.fileEnd k := mt slash_mem_fileEnd.mp hext
  obtain ⟨before, last, hshortPieces, hpieces⟩ :=
    Text.splitAt_append_right k.shortName.toList hend
  intro c hc
  refine Path.normal_of_mem_components habsolute (fun segment hsegment => ?_) hc
  rw [Path.segments, toList_typeFileName, hpieces] at hsegment
  obtain ⟨piece, hpiece, hsame⟩ := List.mem_map.mp hsegment
  have htext : segment.toList = piece := by rw [← hsame, String.toList_ofList]
  -- The last piece has an underscore; the others are parts of the short name and have no dot.
  rcases List.mem_append.mp hpiece with hpiece | hpiece
  · have hmem : piece ∈ Text.splitAt '/' k.shortName.toList :=
      hshortPieces ▸ List.mem_append_left _ hpiece
    have hdot : '.' ∉ segment.toList := by
      rw [htext]
      exact fun hdot => k.dot_notMem_shortName ((Text.of_mem_splitAt hmem).1 '.' hdot)
    refine ⟨?_, ?_⟩ <;> rintro rfl <;> simp at hdot
  · have hmark : '_' ∈ segment.toList := by
      simp [htext, List.mem_singleton.mp hpiece, fileEnd]
    refine ⟨?_, ?_⟩ <;> rintro rfl <;> simp at hmark

theorem components_relativeTypePath (hencoder : l.encoder.PlainAffixes)
    (henabled : l.encoder.enabled = true)
    (hfile : Path.Onward (Path.components ⟨l.typeFileName k⟩)) :
    (l.relativeTypePath k).components = (l.encodeAll k.namespaceComponents).map .normal ++
      Path.components ⟨l.typeFileName k⟩ := by
  have hnonempty : ∀ c ∈ k.namespaceComponents, c ≠ "" := by
    intro c hc
    simpa using (List.mem_filter.mp hc).2
  rw [relativeTypePath, Path.components_join hfile, components_relativeFolder hencoder henabled,
    filter_encodeAll hnonempty]

theorem onward_relativeTypePath (hencoder : l.encoder.PlainAffixes)
    (henabled : l.encoder.enabled = true)
    (hfile : Path.Onward (Path.components ⟨l.typeFileName k⟩)) :
    Path.Onward (l.relativeTypePath k).components := by
  rw [components_relativeTypePath hencoder henabled hfile]
  exact (Path.onward_names _).append hfile

/-- A short name that starts at the root leads there, past the output directory and the folders. -/
theorem typePath_of_root (h : k.shortName.toList.head? = some '/') :
    l.typePath k = ⟨l.typeFileName k⟩ := by
  have habsolute : Path.isAbsolute ⟨l.typeFileName k⟩ = true := isAbsolute_typeFileName.mpr h
  rw [typePath, relativeTypePath, Path.join_of_isAbsolute habsolute,
    Path.join_of_isAbsolute habsolute]

end Shape

theorem locate_typePath (h : ∀ part ∈ l.typeParts k, Path.IsName part) (cwd : Location) :
    (l.typePath k).locate cwd = l.outputDir.locate cwd ++ l.typeParts k := by
  have hne : l.typeParts k ≠ [] := by simp [typeParts]
  rw [typePath_eq, Path.locate_join_ofParts hne h]

end Layout

end SchemaForge
