import Mathlib.Tactic.Common
import SchemaForge.Proofs.Template.Resolving

/-! Runs as functions on sessions. Every step of a run has an equation that says what it makes of a
session. Steps leave the set-up of the generator alone, and what each step keeps a run keeps. -/

namespace SchemaForge

namespace Generate

variable {α β : Type}

def exec (x : Generate α) (s : Session) : Except GenerationError α × Session :=
  x.run.run s

@[simp] theorem exec_pure (a : α) (s : Session) : exec (pure a) s = (.ok a, s) := rfl

@[simp] theorem exec_throw (e : GenerationError) (s : Session) :
    exec (throw e : Generate α) s = (.error e, s) := rfl

@[simp] theorem exec_get (s : Session) : exec get s = (.ok s, s) := rfl

@[simp] theorem exec_set (s t : Session) : exec (set t) s = (.ok (), t) := rfl

@[simp] theorem exec_modify (f : Session → Session) (s : Session) :
    exec (modify f) s = (.ok (), f s) := rfl

/-- Goes on with a result, unless it is a failure. -/
def andThen (r : Except GenerationError α × Session) (f : α → Generate β) :
    Except GenerationError β × Session :=
  match r with
  | (.ok a, t) => exec (f a) t
  | (.error e, t) => (.error e, t)

@[simp] theorem andThen_ok (a : α) (t : Session) (f : α → Generate β) :
    andThen (.ok a, t) f = exec (f a) t := rfl

@[simp] theorem andThen_error (e : GenerationError) (t : Session) (f : α → Generate β) :
    andThen (.error e, t) f = (.error e, t) := rfl

@[simp] theorem exec_bind (x : Generate α) (f : α → Generate β) (s : Session) :
    exec (x >>= f) s = andThen (exec x s) f := by
  have hbind : exec (x >>= f) s = ((ExceptT.bindCont f (exec x s).1).run (exec x s).2) := rfl
  rw [hbind]
  generalize exec x s = r
  obtain ⟨_ | a, t⟩ := r
  · rfl
  · rfl

theorem andThen_eq_ok {r : Except GenerationError α × Session} {f : α → Generate β} {b : β}
    {u : Session} :
    andThen r f = (.ok b, u) ↔ ∃ a t, r = (.ok a, t) ∧ exec (f a) t = (.ok b, u) := by
  obtain ⟨_ | a, t⟩ := r
  · simp
  · simp

section Steps

@[simp] theorem exec_liftExcept (r : Except GenerationError α) (s : Session) :
    exec (write.liftExcept r) s = (r, s) := by
  cases r <;> rfl

theorem exec_write (template : TemplateRef) (data : Json) (path : Path) (s : Session) :
    exec (write template data path) s =
      match s.files.createOutput path s.generator.options.overwrite with
      | (.error e, files) => (.error e, { s with files })
      | (.ok loc, files) =>
        match fill { s with files } loc template data path with
        | (.error e, t) => (.error e, t)
        | (.ok (), t) =>
          ((FileProcessor.runAll t.files path t.generator.processors).1,
            { t with files := (FileProcessor.runAll t.files path t.generator.processors).2 }) := by
  simp only [write, exec_bind, exec_get, andThen_ok]
  rcases s.files.createOutput path s.generator.options.overwrite with ⟨_ | loc, files⟩
  · simp
  · simp only [exec_bind, exec_set, andThen_ok, exec_liftExcept]
    rcases fill { s with files } loc template data path with ⟨_ | _, t⟩
    · simp
    · simp

theorem exec_resolve (e : Entity) (s : Session) :
    exec (resolve e) s =
      ((s.generator.resolver.resolve s.files (EntityKind.ofEntity e) e.fullName).1,
        { s with generator := { s.generator with
          resolver :=
            (s.generator.resolver.resolve s.files (EntityKind.ofEntity e) e.fullName).2 } }) := by
  simp only [resolve, exec_bind, exec_get, andThen_ok]
  rcases s.generator.resolver.resolve s.files (EntityKind.ofEntity e) e.fullName
    with ⟨_ | t, resolver⟩
  · simp
  · simp

theorem files_resolve (e : Entity) (s : Session) : (exec (resolve e) s).2.files = s.files := by
  rw [exec_resolve]

theorem exec_entity (tree : Tree) (e : Entity) (path : Path) (includes : List String)
    (s : Session) :
    exec (entity tree e path includes) s =
      match exec (resolve e) { s with generator := s.generator.nextFile } with
      | (.error err, t) => (.error err, t)
      | (.ok template, t) =>
        if t.generator.options.dryRun then (.ok path, t)
        else exec (write template (dataFor t.generator tree includes e) path) t := by
  simp only [entity, exec_bind, exec_modify, andThen_ok]
  rcases exec (resolve e) { s with generator := s.generator.nextFile } with ⟨_ | template, t⟩
  · simp
  · simp only [andThen_ok, exec_bind, exec_get]
    split
    · simp
    · rfl

theorem exec_supportFile (template : TemplateRef) (s : Session) :
    exec (supportFile template) s =
      if s.generator.options.dryRun then
        (.ok (s.generator.supportPath template.stem), { s with generator := s.generator.nextFile })
      else exec (write template
        (Data.forSupport s.generator.language s.generator.context template.stem)
        (s.generator.supportPath template.stem)) { s with generator := s.generator.nextFile } := by
  simp only [supportFile, exec_bind, exec_modify, exec_get, andThen_ok, Generator.nextFile,
    Generator.supportPath]
  split
  · simp
  · rfl

theorem exec_support (s : Session) :
    exec support s =
      if s.generator.context.omitSupport then (.ok [], s)
      else exec ((s.generator.supportTemplates s.files).mapM supportFile) s := by
  simp only [support, exec_bind, exec_get, andThen_ok]
  split
  · simp
  · rfl

theorem exec_mapM_cons (f : α → Generate β) (a : α) (rest : List α) (s : Session) :
    exec ((a :: rest).mapM f) s =
      match exec (f a) s with
      | (.error e, t) => (.error e, t)
      | (.ok b, t) => ((exec (rest.mapM f) t).1.map (b :: ·), (exec (rest.mapM f) t).2) := by
  rw [List.mapM_cons, exec_bind]
  rcases exec (f a) s with ⟨_ | b, t⟩
  · rfl
  · rw [andThen_ok, exec_bind]
    dsimp only
    rcases exec (rest.mapM f) t with ⟨_ | more, u⟩
    · rfl
    · rfl

theorem exec_mapM_cons_eq_ok {f : α → Generate β} {a : α} {rest : List α} {s u : Session}
    {bs : List β} (h : exec ((a :: rest).mapM f) s = (.ok bs, u)) :
    ∃ b t more, exec (f a) s = (.ok b, t) ∧ exec (rest.mapM f) t = (.ok more, u) ∧
      bs = b :: more := by
  rw [List.mapM_cons, exec_bind, andThen_eq_ok] at h
  obtain ⟨b, t, hfirst, h⟩ := h
  rw [exec_bind, andThen_eq_ok] at h
  obtain ⟨more, v, hrest, h⟩ := h
  cases h
  exact ⟨b, t, more, hfirst, hrest, rfl⟩

end Steps

end Generate

def Generator.entities (g : Generator) (tree : Tree) : List (Entity × Path) :=
  if g.context.namespaceTypes then tree.entities else tree.types

namespace Generate

def entityStep (g : Generator) (tree : Tree) (supportPaths : List Path) (item : Entity × Path) :
    Generate Path :=
  entity tree item.1 item.2 (includesFor g tree
    (supportPaths.filterMap fun p => p.relativeTo? g.layout.outputDir) item.1)

theorem exec_all (tree : Tree) (s : Session) :
    exec (all tree) s =
      match exec support { s with generator := s.generator.start } with
      | (.error e, t) => (.error e, t)
      | (.ok paths, t) =>
        match exec ((t.generator.entities tree).mapM (entityStep t.generator tree paths)) t with
        | (.error e, u) => (.error e, u)
        | (.ok more, u) => (.ok (paths ++ more), u) := by
  simp only [all, exec_bind, exec_modify, andThen_ok]
  rcases exec support { s with generator := s.generator.start } with ⟨_ | paths, t⟩
  · simp
  · simp only [andThen_ok, exec_bind, exec_get, Generator.entities]
    change andThen (exec (List.mapM (entityStep t.generator tree paths) _) t) _ = _
    rcases exec (List.mapM (entityStep t.generator tree paths) _) t with ⟨_ | more, u⟩
    · simp
    · simp

theorem exec_all_eq_ok {tree : Tree} {s u : Session} {paths : List Path}
    (h : exec (all tree) s = (.ok paths, u)) : ∃ first t more,
      exec support { s with generator := s.generator.start } = (.ok first, t) ∧
      exec ((t.generator.entities tree).mapM (entityStep t.generator tree first)) t = (.ok more, u) ∧
      paths = first ++ more := by
  rw [exec_all] at h
  split at h
  · cases h
  · rename_i first t hsupport
    split at h
    · cases h
    · rename_i more v hmore
      cases h
      exact ⟨first, t, more, hsupport, hmore, rfl⟩

section Moves

variable {R : Session → Session → Prop}

/-- However it ends, the step relates the sessions before and after. -/
def Moves (R : Session → Session → Prop) (x : Generate α) : Prop :=
  ∀ s, R s (exec x s).2

theorem Moves.pure (hrefl : ∀ s, R s s) (a : α) : Moves R (pure a : Generate α) :=
  fun s => hrefl s

theorem Moves.bind (htrans : ∀ s t u, R s t → R t u → R s u) {x : Generate α} {f : α → Generate β}
    (hx : Moves R x) (hf : ∀ a, Moves R (f a)) : Moves R (x >>= f) := by
  intro s
  have hfirst := hx s
  rw [exec_bind]
  generalize exec x s = r at hfirst ⊢
  obtain ⟨_ | a, t⟩ := r
  · exact hfirst
  · exact htrans s t _ hfirst (hf a t)

theorem Moves.mapM (hrefl : ∀ s, R s s) (htrans : ∀ s t u, R s t → R t u → R s u)
    {f : α → Generate β} {items : List α} (h : ∀ a ∈ items, Moves R (f a)) :
    Moves R (items.mapM f) := by
  induction items with
  | nil => exact Moves.pure hrefl []
  | cons a rest ih =>
    rw [List.forall_mem_cons] at h
    rw [List.mapM_cons]
    apply Moves.bind htrans h.1
    intro b
    apply Moves.bind htrans (ih h.2)
    intro more
    exact Moves.pure hrefl _

end Moves

end Generate

section Setup

/-- The part of a generator that no step of a run changes. -/
structure Generator.Setup where
  language : Language
  layout : Layout
  options : Options
  context : Context
  sources : List TemplateSource
  overrideDirs : List Path
  processors : List FileProcessor

def Generator.setup (g : Generator) : Generator.Setup where
  language := g.language
  layout := g.layout
  options := g.options
  context := g.context
  sources := g.resolver.sources
  overrideDirs := g.overrideDirs
  processors := g.processors

def SameSetup (s t : Session) : Prop :=
  t.generator.setup = s.generator.setup

namespace SameSetup

theorem refl (s : Session) : SameSetup s s := rfl

theorem trans (s t u : Session) (hst : SameSetup s t) (htu : SameSetup t u) : SameSetup s u :=
  Eq.trans htu hst

variable {s t : Session} (h : SameSetup s t)
include h

theorem options : t.generator.options = s.generator.options :=
  congrArg Generator.Setup.options h

theorem sources : t.generator.resolver.sources = s.generator.resolver.sources :=
  congrArg Generator.Setup.sources h

theorem forall_processors {P : FileProcessor → Prop} (hs : ∀ f ∈ s.generator.processors, P f) :
    ∀ f ∈ t.generator.processors, P f := by
  have hprocessors : t.generator.processors = s.generator.processors :=
    congrArg Generator.Setup.processors h
  rw [hprocessors]
  exact hs

theorem supportPath (stem : String) :
    t.generator.supportPath stem = s.generator.supportPath stem := by
  have hlanguage : t.generator.language = s.generator.language :=
    congrArg Generator.Setup.language h
  have hlayout : t.generator.layout = s.generator.layout := congrArg Generator.Setup.layout h
  rw [Generator.supportPath, Generator.supportPath, hlanguage, hlayout]

theorem entities (tree : Tree) : t.generator.entities tree = s.generator.entities tree := by
  have hcontext : t.generator.context = s.generator.context := congrArg Generator.Setup.context h
  rw [Generator.entities, Generator.entities, hcontext]

end SameSetup

namespace Generate

theorem sameSetup_fill (s : Session) (loc : Location) (template : TemplateRef) (data : Json)
    (path : Path) : SameSetup s (fill s loc template data path).2 := rfl

theorem sameSetup_write (template : TemplateRef) (data : Json) (path : Path) :
    Moves SameSetup (write template data path) := by
  intro s
  rw [exec_write]
  split
  · rfl
  · rename_i loc files _
    have hfill := sameSetup_fill { s with files } loc template data path
    split
    · rename_i e t heq
      rw [heq] at hfill
      exact hfill
    · rename_i t heq
      rw [heq] at hfill
      exact hfill

theorem sameSetup_resolve (e : Entity) : Moves SameSetup (resolve e) := by
  intro s
  rw [exec_resolve]
  simp [SameSetup, Generator.setup, Resolver.sources_resolve]

theorem sameSetup_entity (tree : Tree) (e : Entity) (path : Path) (includes : List String) :
    Moves SameSetup (entity tree e path includes) := by
  intro s
  have hresolve := sameSetup_resolve e { s with generator := s.generator.nextFile }
  rw [exec_entity]
  generalize exec (resolve e) { s with generator := s.generator.nextFile } = r at hresolve ⊢
  obtain ⟨_ | template, t⟩ := r
  · exact hresolve
  · dsimp only
    split
    · exact hresolve
    · exact SameSetup.trans _ _ _ hresolve (sameSetup_write _ _ _ t)

theorem sameSetup_supportFile (template : TemplateRef) :
    Moves SameSetup (supportFile template) := by
  intro s
  rw [exec_supportFile]
  split
  · rfl
  · exact sameSetup_write _ _ _ { s with generator := s.generator.nextFile }

theorem sameSetup_support : Moves SameSetup support := by
  intro s
  rw [exec_support]
  split
  · rfl
  · exact Moves.mapM SameSetup.refl SameSetup.trans (fun t _ => sameSetup_supportFile t) s

end Generate

end Setup

section After

open Generate

/-- The session of a run after its support files and the files of its first types and namespaces. -/
def Session.after (s : Session) (tree : Tree) (n : Nat) : Session :=
  match exec support { s with generator := s.generator.start } with
  | (.error _, t) => t
  | (.ok paths, t) =>
    (exec (((t.generator.entities tree).take n).mapM (entityStep t.generator tree paths)) t).2

variable {s : Session} {tree : Tree} {n : Nat}

theorem Session.after_of_support {paths : List Path} {t : Session}
    (h : exec support { s with generator := s.generator.start } = (.ok paths, t)) (n : Nat) :
    s.after tree n =
      (exec (((t.generator.entities tree).take n).mapM (entityStep t.generator tree paths)) t).2 := by
  rw [after, h]

theorem Session.after_eq_generateAll (h : (s.generator.entities tree).length ≤ n) :
    s.after tree n = (s.generateAll tree).2 := by
  have hsetup := sameSetup_support { s with generator := s.generator.start }
  change _ = (exec (all tree) s).2
  rw [after, exec_all]
  generalize exec support { s with generator := s.generator.start } = r at hsetup ⊢
  obtain ⟨_ | paths, t⟩ := r
  · rfl
  · have hall : (t.generator.entities tree).take n = t.generator.entities tree := by
      apply List.take_of_length_le
      rw [SameSetup.entities hsetup]
      exact h
    dsimp only
    rw [hall]
    rcases exec (List.mapM (entityStep t.generator tree paths) _) t with ⟨_ | more, u⟩
    · rfl
    · rfl

/-- One more file is one more step, unless the run has failed before. -/
theorem Session.after_succ {item : Entity × Path}
    (h : (s.generator.entities tree)[n]? = some item) :
    s.after tree (n + 1) = s.after tree n ∨ ∃ g paths,
      s.after tree (n + 1) = (exec (entityStep g tree paths item) (s.after tree n)).2 := by
  have hsetup := sameSetup_support { s with generator := s.generator.start }
  unfold after
  generalize exec support { s with generator := s.generator.start } = r at hsetup ⊢
  obtain ⟨_ | paths, t⟩ := r
  · exact Or.inl rfl
  · have hitem : (t.generator.entities tree)[n]? = some item := by
      rw [SameSetup.entities hsetup]
      exact h
    dsimp only
    rw [List.take_add_one, hitem, Option.toList_some, List.mapM_append, exec_bind]
    rcases exec (List.mapM (entityStep t.generator tree paths) _) t with ⟨_ | more, u⟩
    · exact Or.inl rfl
    · right
      refine ⟨t.generator, paths, ?_⟩
      simp only [andThen_ok, exec_bind, List.mapM_cons, List.mapM_nil]
      rcases exec (entityStep t.generator tree paths item) u with ⟨_ | path, v⟩
      · rfl
      · rfl

theorem Session.sameSetup_after (s : Session) (tree : Tree) (n : Nat) :
    SameSetup s (s.after tree n) := by
  have hsetup := sameSetup_support { s with generator := s.generator.start }
  unfold after
  generalize exec support { s with generator := s.generator.start } = r at hsetup ⊢
  obtain ⟨_ | paths, t⟩ := r
  · exact hsetup
  · apply SameSetup.trans _ t _ hsetup
    exact Moves.mapM SameSetup.refl SameSetup.trans (fun item _ => sameSetup_entity _ _ _ _) t

end After

end SchemaForge
