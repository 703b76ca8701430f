import Mathlib.Data.List.Induction
import Mathlib.Data.List.InsertIdx
import SchemaForge.Generation.Generator

/-! Looking for templates. A resolver answers from memory where it can, and still gives what a
search of its sources would give: each step it can take leaves it remembering only what a search
finds, as long as the sources themselves go on giving the same answers. -/

namespace SchemaForge

section Templates

variable {sources : List TemplateSource} {fs fs' : FileSystem}

def HasTemplate (sources : List TemplateSource) (fs : FileSystem) (e : Entity) : Prop :=
  ∃ kind ∈ (EntityKind.ofEntity e).searchOrder, ∃ source ∈ sources,
    (source.find? fs kind.name).isSome = true

def SameTemplates (sources : List TemplateSource) (fs fs' : FileSystem) : Prop :=
  ∀ source ∈ sources, ∀ kind : EntityKind, source.find? fs' kind.name = source.find? fs kind.name

theorem EntityKind.mem_all (kind : EntityKind) : kind ∈ all := by
  cases kind <;> decide

instance (sources : List TemplateSource) (fs fs' : FileSystem) :
    Decidable (SameTemplates sources fs fs') :=
  decidable_of_iff (∀ source ∈ sources, ∀ kind ∈ EntityKind.all,
      source.find? fs' kind.name = source.find? fs kind.name)
    ⟨fun h source hsource kind => h source hsource kind kind.mem_all,
      fun h source hsource kind _ => h source hsource kind⟩

theorem SameTemplates.subset {others : List TemplateSource} (h : SameTemplates sources fs fs')
    (hsub : others ⊆ sources) : SameTemplates others fs fs' :=
  fun source hsource => h source (hsub hsource)

namespace Resolver

theorem isSome_lookup? {e : Entity} :
    (lookup? fs sources (EntityKind.ofEntity e)).isSome = true ↔ HasTemplate sources fs e := by
  simp [lookup?, HasTemplate, List.findSome?_isSome_iff]

theorem lookup?_congr (h : SameTemplates sources fs fs') (kind : EntityKind) :
    lookup? fs' sources kind = lookup? fs sources kind := by
  have hfind : (fun k : EntityKind => sources.findSome? fun s => s.find? fs' k.name) =
      fun k => sources.findSome? fun s => s.find? fs k.name := by
    funext k
    induction sources with
    | nil => simp only [List.findSome?_nil]
    | cons source rest ih =>
      have hfirst := h source List.mem_cons_self k
      have hrest := ih fun other hother => h other (List.mem_cons_of_mem source hother)
      rw [List.findSome?_cons, List.findSome?_cons, hfirst, hrest]
  rw [lookup?, hfind, lookup?]

def Remembers (r : Resolver) (fs : FileSystem) : Prop :=
  ∀ kind template, r.cache.lookup kind = some template →
    lookup? fs r.sources kind = some template

/-- Whether remembered or searched for, the template is the one found at the start. -/
theorem resolve_spec {r : Resolver} (hcache : r.Remembers fs)
    (hsame : SameTemplates r.sources fs fs') (kind : EntityKind) (entity : String) :
    (r.resolve fs' kind entity).1 = (match lookup? fs r.sources kind with
      | some template => .ok template
      | none => .error (.templateNotFound entity kind.name)) ∧
    (r.resolve fs' kind entity).2.Remembers fs := by
  unfold resolve
  cases hlookup : r.cache.lookup kind with
  | some template =>
    rw [hcache kind template hlookup]
    exact ⟨rfl, hcache⟩
  | none =>
    dsimp only
    rw [lookup?_congr hsame]
    cases hfound : lookup? fs r.sources kind with
    | none => exact ⟨rfl, hcache⟩
    | some template =>
      refine ⟨rfl, ?_⟩
      intro other found hother
      dsimp only at hother ⊢
      rw [List.lookup_cons] at hother
      split at hother
      · rename_i heq
        cases hother
        rw [beq_iff_eq.mp heq, hfound]
      · exact hcache other found hother

theorem lookup?_eq_none_iff {kind : EntityKind} :
    lookup? fs sources kind = none ↔
      ∀ k ∈ kind.searchOrder, ∀ source ∈ sources, source.find? fs k.name = none := by
  simp [lookup?]

/-- The template of a kind: the first kind of its search order that any source has a template for
decides, and of the sources that have one for it the first. -/
def Chosen (sources : List TemplateSource) (fs : FileSystem) (kind : EntityKind)
    (template : TemplateRef) : Prop :=
  ∃ earlier k later, kind.searchOrder = earlier ++ k :: later ∧
    (∀ other ∈ earlier, ∀ source ∈ sources, source.find? fs other.name = none) ∧
    ∃ higher source lower, sources = higher ++ source :: lower ∧
      (∀ other ∈ higher, other.find? fs k.name = none) ∧
      source.find? fs k.name = some template

theorem lookup?_eq_some_iff {kind : EntityKind} {template : TemplateRef} :
    lookup? fs sources kind = some template ↔ Chosen sources fs kind template := by
  simp only [lookup?, Chosen, List.findSome?_eq_some_iff, List.findSome?_eq_none_iff]
  constructor
  · intro ⟨earlier, k, later, horder, ⟨higher, source, lower, hsources, hfind, hhigher⟩, hnone⟩
    exact ⟨earlier, k, later, horder, hnone, higher, source, lower, hsources, hhigher, hfind⟩
  · intro ⟨earlier, k, later, horder, hnone, higher, source, lower, hsources, hhigher, hfind⟩
    exact ⟨earlier, k, later, horder, ⟨higher, source, lower, hsources, hfind, hhigher⟩, hnone⟩

/-- What can be done with a resolver; between two steps the files may change. -/
inductive Step where
  | add (source : TemplateSource)
  | insert (index : Nat) (source : TemplateSource)
  | clear
  | resolve (fs : FileSystem) (kind : EntityKind) (entity : String)

/-- The sources in order of priority after a step: a source is added behind the others or put at an
index, and at the end where the index is beyond it. -/
def Step.arrange (sources : List TemplateSource) : Step → List TemplateSource
  | .add source => sources ++ [source]
  | .insert index source => sources.insertIdx (min index sources.length) source
  | .clear => sources
  | .resolve _ _ _ => sources

/-- The sources after some steps, the highest priority first. -/
def priority (steps : List Step) : List TemplateSource :=
  steps.foldl Step.arrange []

def step (r : Resolver) : Step → Resolver
  | .add source => r.addSource source
  | .insert index source => r.insertSource index source
  | .clear => r.clearCache
  | .resolve fs kind entity => (r.resolve fs kind entity).2

def after (steps : List Step) : Resolver :=
  steps.foldl step {}

theorem sources_resolve (r : Resolver) (fs : FileSystem) (kind : EntityKind) (entity : String) :
    (r.resolve fs kind entity).2.sources = r.sources := by
  unfold resolve
  split
  · rfl
  · split
    · rfl
    · rfl

theorem insertIdx_min (sources : List TemplateSource) (index : Nat) (source : TemplateSource) :
    sources.insertIdx (min index sources.length) source =
      sources.take index ++ source :: sources.drop index := by
  induction sources generalizing index with
  | nil => simp
  | cons first rest ih =>
    cases index with
    | zero => simp
    | succ index => simp [Nat.succ_min_succ, ih]

theorem sources_step (r : Resolver) (s : Step) : (r.step s).sources = s.arrange r.sources := by
  cases s with
  | add source => rfl
  | insert index source => exact (insertIdx_min r.sources index source).symm
  | clear => rfl
  | resolve fs kind entity => exact sources_resolve r fs kind entity

theorem sources_after (steps : List Step) : (after steps).sources = priority steps :=
  (List.foldl_hom Resolver.sources fun r s => (sources_step r s).symm).symm

theorem subset_arrange (sources : List TemplateSource) (s : Step) :
    sources ⊆ s.arrange sources := by
  cases s with
  | add source => exact List.subset_append_left sources [source]
  | insert index source => exact List.subset_insertIdx sources _ source
  | clear => exact List.Subset.refl sources
  | resolve fs kind entity => exact List.Subset.refl sources

/-- New sources and clearing leave nothing to remember, and resolving adds what it has found. -/
theorem Remembers.step {r : Resolver} (h : r.Remembers fs) (s : Step)
    (hsame : ∀ fs' kind entity, s = .resolve fs' kind entity → SameTemplates r.sources fs fs') :
    (r.step s).Remembers fs := by
  have hnothing : ∀ sources, Remembers ⟨sources, []⟩ fs := by
    intro sources kind template hlookup
    cases hlookup
  cases s with
  | add source => exact hnothing _
  | insert index source => exact hnothing _
  | clear => exact hnothing _
  | resolve fs' kind entity => exact (resolve_spec h (hsame fs' kind entity rfl) kind entity).2

theorem remembers_after {steps : List Step}
    (hsame : ∀ fs' kind entity, .resolve fs' kind entity ∈ steps →
      SameTemplates (priority steps) fs fs') :
    (after steps).Remembers fs := by
  induction steps using List.reverseRecOn with
  | nil =>
    intro kind template hlookup
    cases hlookup
  | append_singleton steps s ih =>
    have hpriority : priority (steps ++ [s]) = s.arrange (priority steps) := by
      simp [priority]
    have hsub : priority steps ⊆ priority (steps ++ [s]) := by
      rw [hpriority]
      exact subset_arrange (priority steps) s
    have hbefore : (after steps).Remembers fs := by
      apply ih
      intro fs' kind entity hmem
      exact (hsame fs' kind entity (List.mem_append_left [s] hmem)).subset hsub
    have hafter : after (steps ++ [s]) = (after steps).step s := by
      simp [after]
    rw [hafter]
    apply hbefore.step s
    intro fs' kind entity hs
    rw [sources_after]
    exact (hsame fs' kind entity (by simp [hs])).subset hsub

end Resolver

end Templates

namespace Generator

variable {g g' : Generator} {fs : FileSystem} {dir : Path}

theorem withTemplateDir_eq_ok :
    g.withTemplateDir fs dir = .ok g' ↔ fs.isDirectory dir = true ∧ g' = { g with
      resolver := g.resolver.insertSource g.overrideDirs.length (.directory dir)
      overrideDirs := g.overrideDirs ++ [dir] } := by
  unfold withTemplateDir TemplateSource.ofDirectory
  by_cases h : fs.isDirectory dir
  · simp [h, bind, Except.bind, eq_comm]
  · simp [h, bind, Except.bind]

section Directories

variable {dirs : List (FileSystem × Path)}

theorem exists_foldlM_withTemplateDir :
    (∃ g', dirs.foldlM (fun g dir => g.withTemplateDir dir.1 dir.2) g = .ok g') ↔
      ∀ dir ∈ dirs, dir.1.isDirectory dir.2 = true := by
  induction dirs generalizing g with
  | nil => exact ⟨fun _ => by simp, fun _ => ⟨g, rfl⟩⟩
  | cons dir rest ih =>
    rw [List.foldlM_cons, List.forall_mem_cons]
    cases hfirst : g.withTemplateDir dir.1 dir.2 with
    | error e =>
      have hdir : dir.1.isDirectory dir.2 ≠ true := by
        intro hdir
        rw [withTemplateDir_eq_ok.mpr ⟨hdir, rfl⟩] at hfirst
        cases hfirst
      simp [bind, Except.bind, hdir]
    | ok g' => exact ih.trans (by simp [(withTemplateDir_eq_ok.mp hfirst).1])

/-- Template directories stand in the order they are added in, ahead of all other sources. -/
theorem sources_of_foldlM_withTemplateDir (others : List TemplateSource)
    (h : g.resolver.sources = g.overrideDirs.map .directory ++ others)
    (hdirs : dirs.foldlM (fun g dir => g.withTemplateDir dir.1 dir.2) g = .ok g') :
    g'.resolver.sources = (g.overrideDirs ++ dirs.map (·.2)).map .directory ++ others := by
  induction dirs generalizing g with
  | nil =>
    obtain rfl : g = g' := Except.ok.inj hdirs
    simpa using h
  | cons dir rest ih =>
    rw [List.foldlM_cons] at hdirs
    cases hfirst : g.withTemplateDir dir.1 dir.2 with
    | error e => simp [hfirst, bind, Except.bind] at hdirs
    | ok between =>
      rw [hfirst] at hdirs
      obtain ⟨-, rfl⟩ := withTemplateDir_eq_ok.mp hfirst
      rw [ih (by simp [Resolver.insertSource, h]) hdirs]
      simp

end Directories

end Generator

/-- After any steps a resolver answers as a search of its sources does: with the template of the
first kind of the search order that any source has one for, from the source of the highest priority
that has one for this kind, and with a failure exactly where no source has any. Its memory does not
show, as long as no source has changed its answers since. The sources of a generator are its
template directories in the order they were added in, and then the templates of its language. -/
theorem Resolver.resolve_after (steps : List Step) (fs : FileSystem)
    (hsame : ∀ fs' kind entity, .resolve fs' kind entity ∈ steps →
      SameTemplates (priority steps) fs fs')
    (kind : EntityKind) (entity : String) :
    (∀ template, ((after steps).resolve fs kind entity).1 = .ok template ↔
      Chosen (priority steps) fs kind template) ∧
    (((after steps).resolve fs kind entity).1 = .error (.templateNotFound entity kind.name) ↔
      ∀ k ∈ kind.searchOrder, ∀ source ∈ priority steps, source.find? fs k.name = none) ∧
    (∀ failure, ((after steps).resolve fs kind entity).1 = .error failure →
      failure = .templateNotFound entity kind.name) ∧
    ∀ (language : Language) (outputDir : Path) (options : Options) (now : Int)
      (dirs : List (FileSystem × Path)),
      let generator := dirs.foldlM (fun g dir => g.withTemplateDir dir.1 dir.2)
        (Generator.ofLanguage language outputDir options now)
      ((∃ g, generator = .ok g) ↔ ∀ dir ∈ dirs, dir.1.isDirectory dir.2 = true) ∧
      ∀ g, generator = .ok g → g.resolver.sources =
        dirs.map (fun dir => .directory dir.2) ++
          [TemplateSource.ofTemplates language.name language.plugin.templates] := by
  have hspec := (resolve_spec (remembers_after hsame) (fun _ _ _ => rfl) kind entity).1
  rw [sources_after] at hspec
  rw [hspec, ← lookup?_eq_none_iff]
  simp only [← lookup?_eq_some_iff]
  refine ⟨?_, ?_, ?_, ?_⟩
  · intro template
    cases lookup? fs (priority steps) kind <;> simp
  · cases lookup? fs (priority steps) kind <;> simp
  · intro failure
    cases lookup? fs (priority steps) kind <;> simp [eq_comm]
  · intro language outputDir options now dirs
    refine ⟨Generator.exists_foldlM_withTemplateDir, ?_⟩
    intro g hg
    rw [Generator.sources_of_foldlM_withTemplateDir [_] rfl hg]
    simp [Generator.ofLanguage, Function.comp_def]

/-- A template for composites behind beats one for all serializable types ahead, although the union
before has been answered for and files have come between. -/
theorem Resolver.resolve_after_behind :
    let ahead := TemplateSource.inline "own" [("SerializableType", "a")]
    let behind := TemplateSource.inline "demo" [("CompositeType", "b")]
    let first : FileSystem := {}
    let now := first.set ["work", "new"] (.file 0o644 [])
    let steps := [Step.add behind, .resolve first .union "demo.U", .insert 0 ahead, .clear,
      .resolve first .union "demo.U"]
    SameTemplates (priority steps) now first ∧
      ((after steps).resolve now .struct "demo.S").1 =
        .ok ⟨"CompositeType", .inline "demo" "b"⟩ := by
  intro ahead behind first now steps
  have hsame : SameTemplates (priority steps) now first := by decide
  refine ⟨hsame, ((resolve_after steps now ?_ .struct "demo.S").1 _).mpr ?_⟩
  · intro fs' kind entity hmem
    obtain ⟨rfl, -, -⟩ : fs' = first ∧ kind = .union ∧ entity = "demo.U" := by
      simpa [steps] using hmem
    exact hsame
  · exact ⟨[.struct], .composite, [.serializable], by decide, by decide, [ahead], behind, [],
      rfl, by decide, rfl⟩

end SchemaForge
