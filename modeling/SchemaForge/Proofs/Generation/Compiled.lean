import SchemaForge.Proofs.Generation.Makings
import SchemaForge.Proofs.Namespace.Shape

/-! The table of compiled templates. It keeps for every id the first template that was compiled under
it, for as long as the generator lives, and each file is rendered from what the table holds under
the id of its template. -/

namespace SchemaForge

def TemplateRef.nodes (fs : FileSystem) (t : TemplateRef) :
    Except GenerationError (List Template.Node) := do
  let source ← t.read fs
  match Template.parse source with
  | some nodes => .ok nodes
  | none => .error (.render t.id)

theorem TemplateRef.nodes_congr {fs fs' : FileSystem} {t t' : TemplateRef} (hid : t'.id = t.id)
    (hread : t'.read fs' = t.read fs) : t'.nodes fs' = t.nodes fs := by
  unfold nodes
  rw [hread, hid]

theorem TemplateRef.nodes_of_parse {t : TemplateRef} {fs : FileSystem} {source : String}
    {parsed : List Template.Node} (hread : t.read fs = .ok source)
    (hparse : Template.parse source = some parsed) : t.nodes fs = .ok parsed := by
  rw [nodes, hread]
  dsimp only [bind, Except.bind]
  rw [hparse]

namespace Engine

variable {e : Engine} {t : TemplateRef}

def keep (e : Engine) (id : String) (nodes : List Template.Node) : Engine :=
  { e with compiled := (id, nodes) :: e.compiled }

theorem compile_known {nodes : List Template.Node} (h : e.compiled.lookup t.id = some nodes)
    (fs : FileSystem) : e.compile fs t = .ok (nodes, e) := by
  rw [compile, h]

theorem compile_new (h : e.compiled.lookup t.id = none) (fs : FileSystem) :
    e.compile fs t = (t.nodes fs).map fun nodes => (nodes, e.keep t.id nodes) := by
  rw [compile, h, TemplateRef.nodes]
  dsimp only [bind, Except.bind]
  cases t.read fs with
  | error cause => rfl
  | ok source =>
    dsimp only
    cases Template.parse source with
    | none => rfl
    | some nodes => rfl

theorem engine_render (e : Engine) (fs : FileSystem) (names : UniqueNames) (t : TemplateRef)
    (data : Json) :
    (e.render fs names t data).engine =
      match e.compile fs t with
      | .error _ => e
      | .ok (_, engine) => engine := by
  unfold render
  rcases e.compile fs t with cause | ⟨nodes, engine⟩
  · rfl
  · dsimp only
    split
    · rfl
    · rfl

theorem naming_render (e : Engine) (fs : FileSystem) (names : UniqueNames) (t : TemplateRef)
    (data : Json) : (e.render fs names t data).engine.naming = e.naming := by
  rw [engine_render]
  cases hlookup : e.compiled.lookup t.id with
  | some nodes => rw [compile_known hlookup]
  | none =>
    rw [compile_new hlookup]
    cases t.nodes fs with
    | error cause => rfl
    | ok nodes => rfl

/-- What the table holds stays; under the id of a new template it holds that one from now on. -/
theorem lookup_render (e : Engine) (fs : FileSystem) (names : UniqueNames) (t : TemplateRef)
    (data : Json) (id : String) :
    (e.render fs names t data).engine.compiled.lookup id =
      (e.compiled.lookup id).or (if t.id = id then (t.nodes fs).toOption else none) := by
  rw [engine_render]
  cases hlookup : e.compiled.lookup t.id with
  | some nodes =>
    rw [compile_known hlookup]
    dsimp only
    split
    · rename_i hid
      rw [← hid, hlookup, Option.some_or]
    · rw [Option.or_none]
  | none =>
    rw [compile_new hlookup]
    cases t.nodes fs with
    | error cause =>
      dsimp only [Except.map, Except.toOption]
      rw [ite_self, Option.or_none]
    | ok nodes =>
      dsimp only [Except.map, Except.toOption, keep]
      rw [List.lookup_cons]
      by_cases hid : t.id = id
      · rw [if_pos hid, ← hid, hlookup, beq_self_eq_true]
        rfl
      · rw [if_neg hid, beq_eq_false_iff_ne.mpr (Ne.symm hid), Option.or_none]

/-- An engine that renders a template of the language from its own text: what it has compiled under
the id, if anything, is that text. -/
structure Serves (e : Engine) (l : Language) (fs : FileSystem) (t : TemplateRef) : Prop where
  encoder : e.naming.encoder = l.encoder
  own : ∀ nodes, e.compiled.lookup t.id = some nodes → t.nodes fs = .ok nodes

namespace Serves

variable {l : Language} {fs : FileSystem} {nodes : List Template.Node}

theorem ofLanguage (l : Language) (fs : FileSystem) (t : TemplateRef) :
    (Engine.ofLanguage l).Serves l fs t :=
  ⟨rfl, fun _ hkept => by cases hkept⟩

theorem compile (h : e.Serves l fs t) (hnodes : t.nodes fs = .ok nodes) :
    ∃ engine, e.compile fs t = .ok (nodes, engine) := by
  cases hlookup : e.compiled.lookup t.id with
  | some kept =>
    obtain rfl : nodes = kept := Except.ok.inj (hnodes.symm.trans (h.own kept hlookup))
    exact ⟨e, compile_known hlookup fs⟩
  | none =>
    refine ⟨e.keep t.id nodes, ?_⟩
    rw [compile_new hlookup, hnodes]
    rfl

theorem render (h : e.Serves l fs t) (hnodes : t.nodes fs = .ok nodes) {data : Json}
    {text : List Char} (hrender : ∀ (lib : Template.Library) (names : UniqueNames) (id : String),
      lib.naming.encoder = l.encoder →
        ∃ names', Template.render lib names id nodes data = (.ok (), text, names'))
    (names : UniqueNames) :
    (e.render fs names t data).result = .ok () ∧ (e.render fs names t data).text = text := by
  obtain ⟨engine, hcompile⟩ := h.compile hnodes
  obtain ⟨names', hdone⟩ := hrender ⟨e.naming, engine.compiled⟩ names t.id h.encoder
  unfold Engine.render
  rw [hcompile]
  dsimp only
  rw [hdone]
  exact ⟨rfl, rfl⟩

end Serves

end Engine

namespace Making

def nodes (m : Making) : Except GenerationError (List Template.Node) :=
  m.template.nodes m.session.files

/-- What the first template of an id that could be compiled was compiled to, if there was one. -/
def compiledAs (ms : List Making) (id : String) : Option (List Template.Node) :=
  ms.findSome? fun m => if m.template.id = id then m.nodes.toOption else none

theorem compiledAs_concat (ms : List Making) (m : Making) (id : String) :
    compiledAs (ms ++ [m]) id =
      (compiledAs ms id).or (if m.template.id = id then m.nodes.toOption else none) := by
  rw [compiledAs, List.findSome?_append, List.findSome?_singleton, compiledAs]

theorem exists_of_compiledAs {ms : List Making} {id : String} {nodes : List Template.Node}
    (h : compiledAs ms id = some nodes) :
    ∃ m ∈ ms, m.template.id = id ∧ m.nodes = .ok nodes := by
  obtain ⟨m, hm, hnodes⟩ := List.exists_of_findSome?_eq_some h
  split at hnodes
  · rename_i hid
    refine ⟨m, hm, hid, ?_⟩
    cases hcompiled : m.nodes with
    | error cause =>
      rw [hcompiled] at hnodes
      cases hnodes
    | ok found =>
      rw [hcompiled] at hnodes
      cases hnodes
      rfl
  · cases hnodes

end Making

/-- The engine's table is what the files made so far have left of an empty one. -/
structure Engine.Holds (naming : Template.Naming) (ms : List Making) (e : Engine) : Prop where
  naming : e.naming = naming
  lookup : ∀ id, e.compiled.lookup id = Making.compiledAs ms id

theorem Generator.Reaches.holds {g h : Generator} {naming : Template.Naming} {ms : List Making}
    (hfresh : g.renderer = .templates { naming }) (hreach : g.Reaches ms h) :
    ∃ e, h.renderer = .templates e ∧ e.Holds naming ms := by
  induction hreach with
  | begin => exact ⟨{ naming }, hfresh, rfl, fun _ => rfl⟩
  | start _ ih => exact ih
  | next _ _ ih => exact ih
  | @make ms h resolver m _ hm ih =>
    obtain ⟨e, hrenderer, hholds⟩ := ih
    have hengine : m.session.generator.renderer = .templates e := by
      rw [hm]
      exact hrenderer
    -- Rendering may fail, but what it has compiled stays in the table.
    refine ⟨(e.render m.session.files m.session.generator.names m.template m.data).engine, ?_,
      ?_, ?_⟩
    · rw [Making.filled, Generate.fill]
      dsimp only
      rw [hengine]
      rfl
    · rw [Engine.naming_render, hholds.naming]
    · intro id
      rw [Engine.lookup_render, hholds.lookup, Making.compiledAs_concat, Making.nodes]

/-- Each file of runs is rendered from the first template with the id of its own that a generator
has been able to compile. -/
theorem Generator.compile_of_makings {g : Generator} {naming : Template.Naming}
    (hfresh : g.renderer = .templates { naming }) {history : List (FileSystem × Tree)}
    {before after : List Making} {m : Making} (hm : g.makings history = before ++ m :: after) :
    ∃ e, m.session.generator.renderer = .templates e ∧
      (e.compile m.session.files m.template).map (·.1) =
        (Making.compiledAs before m.template.id).elim m.nodes .ok := by
  obtain ⟨h, resolver, hreach, hgenerator⟩ := reaches_before hm
  obtain ⟨e, hrenderer, hholds⟩ := hreach.holds hfresh
  refine ⟨e, by rw [hgenerator]; exact hrenderer, ?_⟩
  rw [← hholds.lookup]
  cases hlookup : e.compiled.lookup m.template.id with
  | some nodes =>
    rw [Engine.compile_known hlookup]
    rfl
  | none =>
    rw [Engine.compile_new hlookup, Making.nodes]
    cases m.template.nodes m.session.files with
    | error cause => rfl
    | ok nodes => rfl

theorem exists_pair_of_map {α β : Type} {f : α → β} {items : List α} {a b : β}
    (h : items.map f = [a, b]) : ∃ x y, items = [x, y] ∧ f x = a ∧ f y = b := by
  simp only [List.map_eq_cons_iff, List.map_eq_nil_iff] at h
  obtain ⟨x, _, rfl, hx, y, _, rfl, hy, rfl⟩ := h
  exact ⟨x, y, rfl, hx, hy⟩

def Generator.ofTemplates (templates supportTemplates : List (String × String)) : Generator :=
  ofLanguage {
    plugin := { name := "demo", draft := .ok Target.c.draft, templates, supportTemplates }
    rules := {
      language := { name := "demo", extension := ".h", supportNamespace := [] }
      options := { limitEmptyLines := some 1, trimTrailing := true } }
    encoder := Tree.sampleLayout.encoder } ⟨"out"⟩ {} 0

section Twins

/-- A support template and a template for types of one origin and stem, with different texts. -/
def TemplateRef.twins : List TemplateRef :=
  [⟨"SerializableType", .inline "demo" "S"⟩, ⟨"SerializableType", .inline "demo" "T"⟩]

def Generator.twinSample : Generator :=
  ofTemplates [("SerializableType", "T")] [("SerializableType", "S")]

theorem Generator.compile_of_makings_twins :
    ∃ t first second, Tree.single ⟨"out"⟩ = .ok t ∧
      twinSample.makings [({}, t)] = [first, second] ∧
      [first, second].map (·.template) = TemplateRef.twins ∧
      ∃ e nodes, second.session.generator.renderer = .templates e ∧ first.nodes = .ok nodes ∧
        (e.compile second.session.files second.template).map (·.1) = .ok nodes := by
  obtain ⟨t, hbuild, hmade⟩ := exists_of_map_eq_ok (show
    (Tree.single ⟨"out"⟩).map (fun t => (twinSample.makings [({}, t)]).map fun m =>
      (m.template, m.nodes.isOk)) =
      .ok (TemplateRef.twins.map (·, true))
    by decide +kernel)
  obtain ⟨first, second, hmakings, hfirst, hsecond⟩ := exists_pair_of_map hmade
  obtain ⟨htemplate, hcompiled⟩ := Prod.mk.inj hfirst
  obtain ⟨htemplate', -⟩ := Prod.mk.inj hsecond
  have hsplit : twinSample.makings [({}, t)] = [first] ++ second :: [] := hmakings
  obtain ⟨e, hrenderer, hcompile⟩ := compile_of_makings rfl hsplit
  have hid : first.template.id = second.template.id := by
    rw [htemplate, htemplate']
    rfl
  cases hnodes : first.nodes with
  | error cause =>
    rw [hnodes] at hcompiled
    cases hcompiled
  | ok nodes =>
    refine ⟨t, first, second, hbuild, hmakings, ?_, e, nodes, hrenderer, hnodes, ?_⟩
    · rw [List.map_cons, List.map_cons, htemplate, htemplate']
      rfl
    · rw [hcompile, Making.compiledAs, List.findSome?_singleton, if_pos hid, hnodes]
      rfl

/-- The file of a type is rendered from the support template with the id of its own template. -/
theorem Generator.twin_replaces_template :
    ∃ t, Tree.single ⟨"out"⟩ = .ok t ∧
      (twinSample.makings [({}, t)]).map (·.template) = TemplateRef.twins ∧
      (Session.generateAll ⟨twinSample, {}⟩ t).2.files.node?
        ["work", "out", "demo", "Heartbeat_1_0.h"] = some (.file 0o644 (Utf8.encodeString "S")) := by
  obtain ⟨t, hbuild, hfacts⟩ := exists_of_map_eq_ok (show
    (Tree.single ⟨"out"⟩).map (fun t => ((twinSample.makings [({}, t)]).map (·.template),
      (Session.generateAll ⟨twinSample, {}⟩ t).2.files.node?
        ["work", "out", "demo", "Heartbeat_1_0.h"])) =
      .ok (TemplateRef.twins, some (.file 0o644 (Utf8.encodeString "S")))
    by decide +kernel)
  obtain ⟨hmade, hfile⟩ := Prod.mk.inj hfacts
  exact ⟨t, hbuild, hmade, hfile⟩

end Twins

end SchemaForge
