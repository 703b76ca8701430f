import SchemaForge.Proofs.Files.Components
import SchemaForge.Proofs.Namespace.Shape

/-! When a tree can be built: exactly if every namespace it needs has a directory of definitions.
The builder stops for nothing but such a directory, and no type of a catalog is placed twice. -/

namespace SchemaForge

def Tree.sourceDirOf (rootDir : Path) (name : String) : Path :=
  (Text.components name).foldl (fun p c => p.join ⟨c⟩) (rootDir.parent?.getD ⟨""⟩)

theorem Site.sourceDir_eq (hasDir : Path → Bool) (rootDir : Path) (layout : Layout)
    (name : String) : (⟨hasDir, rootDir.parent?.getD ⟨""⟩, layout⟩ : Site).sourceDir name =
      Tree.sourceDirOf rootDir name := by
  rw [sourceDir, Path.ofParts, List.foldl_cons, Path.empty_join, Tree.sourceDirOf]

namespace Tree

variable {hasDir : Path → Bool} {catalog : Catalog} {rootDir : Path} {layout : Layout}
  {root : String}

theorem build_ends (hasDir : Path → Bool) (catalog : Catalog) (layout : Layout)
    (hroot : rootDir.fileName? = some root) :
    Ends (build hasDir catalog rootDir layout)
      (Lacks ⟨hasDir, rootDir.parent?.getD ⟨""⟩, layout⟩ (Wanted (catalog.typesBelow root) root))
      fun _ => ∀ name, Wanted (catalog.typesBelow root) root name →
        hasDir (sourceDirOf rootDir name) = true := by
  unfold build
  rw [hroot]
  refine (buildNodes_ends _ catalog root).bind fun nodes ⟨hgrown, hnames⟩ name hname => ?_
  obtain ⟨n, hn, rfl⟩ := mem_names.mp ((hnames name).mpr hname)
  rw [← hgrown.dirs n hn, Site.sourceDir_eq]

theorem build_ne_placedTwice (key : TypeKey) : build hasDir catalog rootDir layout ≠
    .error (.configuration ("type '" ++ key.display ++ "' was placed twice")) := by
  intro hbuild
  cases hroot : rootDir.fileName? with
  | none =>
    unfold build at hbuild
    rw [hroot] at hbuild
    have hmessage := GenerationError.configuration.inj (Except.error.inj hbuild)
    have hfirst := congrArg (fun text : String => text.toList.head?) hmessage
    simp at hfirst
  | some root =>
    have hends := build_ends hasDir catalog layout hroot
    rw [hbuild] at hends
    obtain ⟨name, -, -, hcause⟩ := hends
    cases hcause

/-- A tree is built exactly if every name cut off at a dot of the root's name or of the namespace of
a type below the root has its directory. Else the cause is one such name and its missing directory,
and in no case that a type was placed twice. -/
theorem build_iff_dirs (hasDir : Path → Bool) (catalog : Catalog) (rootDir : Path)
    (layout : Layout) :
    (∀ root, rootDir.fileName? = some root →
      ((∃ t, build hasDir catalog rootDir layout = .ok t) ↔
        ∀ name, Text.AtOrAbove name root ∨
          (∃ ty ∈ catalog.typesBelow root, Text.AtOrAbove name ty.namespaceName) →
            hasDir (sourceDirOf rootDir name) = true) ∧
      ((¬ ∃ t, build hasDir catalog rootDir layout = .ok t) → ∃ name,
        (Text.AtOrAbove name root ∨
          ∃ ty ∈ catalog.typesBelow root, Text.AtOrAbove name ty.namespaceName) ∧
        hasDir (sourceDirOf rootDir name) = false ∧
        build hasDir catalog rootDir layout =
          .error (.sourceNotFound name (sourceDirOf rootDir name)))) ∧
    ∀ key : TypeKey, build hasDir catalog rootDir layout ≠
      .error (.configuration ("type '" ++ key.display ++ "' was placed twice")) := by
  refine ⟨fun root hroot => ?_, build_ne_placedTwice⟩
  have hends := build_ends hasDir catalog layout hroot
  cases hbuild : build hasDir catalog rootDir layout with
  | ok t =>
    rw [hbuild] at hends
    exact ⟨⟨fun _ => hends, fun _ => ⟨t, rfl⟩⟩, fun hnone => absurd ⟨t, rfl⟩ hnone⟩
  | error e =>
    rw [hbuild] at hends
    obtain ⟨name, hwanted, hmissing, rfl⟩ := hends
    rw [Site.sourceDir_eq] at hmissing ⊢
    refine ⟨⟨?_, fun hdirs => ?_⟩, fun _ => ⟨name, hwanted, hmissing, rfl⟩⟩
    · rintro ⟨t, hok⟩
      cases hok
    · exact absurd ((hdirs name hwanted).symm.trans hmissing) (by decide)

theorem build_iff_dirs_sample :
    (⟨"dsdl/demo"⟩ : Path).fileName? = some "demo" ∧
    (∃ t, build (fun _ => true) Sample.catalog ⟨"dsdl/demo"⟩ sampleLayout = .ok t) ∧
    ∃ name, build (fun p => p ≠ ⟨"dsdl/demo/if"⟩) Sample.catalog ⟨"dsdl/demo"⟩ sampleLayout =
      .error (.sourceNotFound name (sourceDirOf ⟨"dsdl/demo"⟩ name)) := by
  have hroot : (⟨"dsdl/demo"⟩ : Path).fileName? = some "demo" := by decide
  have hfull := (build_iff_dirs (fun _ => true) Sample.catalog ⟨"dsdl/demo"⟩ sampleLayout).1 _ hroot
  have hlacking := (build_iff_dirs (fun p => p ≠ ⟨"dsdl/demo/if"⟩) Sample.catalog ⟨"dsdl/demo"⟩
    sampleLayout).1 _ hroot
  have hplaced : (Sample.catalog.typesBelow "demo").any (·.namespaceName = "demo.if") = true := by
    decide
  obtain ⟨ty, hty, hname⟩ := List.any_eq_true.mp hplaced
  have hmissing : sourceDirOf ⟨"dsdl/demo"⟩ "demo.if" = ⟨"dsdl/demo/if"⟩ := by decide
  refine ⟨hroot, hfull.1.mpr fun _ _ => rfl, ?_⟩
  have hfails : ¬ ∃ t, build (fun p => p ≠ ⟨"dsdl/demo/if"⟩) Sample.catalog ⟨"dsdl/demo"⟩
      sampleLayout = .ok t := by
    intro hbuilt
    have hdir := hlacking.1.mp hbuilt "demo.if"
      (Or.inr ⟨ty, hty, of_decide_eq_true hname ▸ Text.AtOrAbove.refl _⟩)
    simp [hmissing] at hdir
  obtain ⟨name, -, -, hbuild⟩ := hlacking.2 hfails
  exact ⟨name, hbuild⟩

end Tree

end SchemaForge
