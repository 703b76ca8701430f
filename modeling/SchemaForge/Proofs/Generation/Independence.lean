import SchemaForge.Proofs.Generation.Compiled
import SchemaForge.Proofs.Output.Resetting
import SchemaForge.Proofs.Template.Parts

/-! Files do not depend on the files before them. The counters of unique names, what line processors
remember and the processors themselves are at every file what they are at the first. The table of
compiled templates is not, and so a file depends on those before it as far as its template refers to
other templates. -/

namespace SchemaForge

open Template (AllAsk Library Naming Node)

namespace LineChain

/-- The chain with a processor at the end, unless it has one of that name. -/
def want (chain : LineChain) (p : LineProcessor) : LineChain :=
  if chain.contains p.name then chain else chain.push p

theorem reset_foldl_want (chain : LineChain) (processors : List LineProcessor) :
    (processors.foldl want chain).reset = processors.foldl want chain.reset := by
  induction processors generalizing chain with
  | nil => rfl
  | cons p rest ih =>
    have hwant : (chain.want p).reset = chain.reset.want p := by
      unfold want
      rw [contains_reset]
      split
      · rfl
      · rw [reset_push]
    rw [List.foldl_cons, List.foldl_cons, ih, hwant]

theorem contains_foldl_want (chain : LineChain) (processors : List LineProcessor) (name : String) :
    (processors.foldl want chain).contains name =
      (chain.contains name || processors.any (·.name == name)) := by
  induction processors generalizing chain with
  | nil => simp
  | cons p rest ih =>
    have hwant : (chain.want p).contains name = (chain.contains name || p.name == name) := by
      unfold want
      split
      · rename_i hcontains
        by_cases hname : p.name = name
        · simp [← hname, hcontains]
        · simp [hname]
      · rw [contains_push]
    rw [List.foldl_cons, ih, hwant, List.any_cons, Bool.or_assoc]

theorem foldl_want_of_contains {chain : LineChain} {processors : List LineProcessor}
    (h : ∀ p ∈ processors, chain.contains p.name = true) : processors.foldl want chain = chain := by
  induction processors with
  | nil => rfl
  | cons p rest ih =>
    rw [List.forall_mem_cons] at h
    rw [List.foldl_cons, want, if_pos h.1, ih h.2]

theorem foldl_want_foldl_want (chain : LineChain) (processors : List LineProcessor) :
    processors.foldl want (processors.foldl want chain) = processors.foldl want chain := by
  apply foldl_want_of_contains
  intro p hp
  rw [contains_foldl_want, Bool.or_eq_true, List.any_eq_true]
  exact Or.inr ⟨p, hp, beq_self_eq_true p.name⟩

end LineChain

namespace Generator

def ruleProcessors (options : LanguageOptions) : List LineProcessor :=
  (if options.trimTrailing then [LineProcessor.trimTrailing] else []) ++
    (options.limitEmptyLines.map LineProcessor.limitEmpty).toList

theorem ruleLines_eq (options : LanguageOptions) (chain : LineChain) :
    ruleLines options chain = (ruleProcessors options).foldl LineChain.want chain := by
  have htrim :
      (if options.trimTrailing && !chain.contains LineProcessor.trimName then
        chain.push LineProcessor.trimTrailing else chain) =
      (if options.trimTrailing then [LineProcessor.trimTrailing] else []).foldl LineChain.want
        chain := by
    cases options.trimTrailing with
    | false => rfl
    | true =>
      have hname : LineProcessor.trimTrailing.name = LineProcessor.trimName := rfl
      simp only [Bool.true_and, if_true, List.foldl_cons, List.foldl_nil, LineChain.want, hname]
      cases chain.contains LineProcessor.trimName with
      | false => rfl
      | true => rfl
  rw [ruleLines, ruleProcessors, List.foldl_append, ← htrim]
  cases options.limitEmptyLines with
  | none => rfl
  | some max => rfl

/-- Files and runs leave of the chain of a generator what its first run started with. -/
structure Keeps (g h : Generator) : Prop where
  language : h.language = g.language
  lines : h.lines.reset = g.start.lines.reset

theorem reset_fill (s : Session) (loc : Location) (template : TemplateRef) (data : Json)
    (path : Path) :
    (Generate.fill s loc template data path).2.generator.lines.reset = s.generator.lines.reset := by
  unfold Generate.fill
  dsimp only
  have hall := LineWriter.reset_writeAll ⟨{}, s.generator.lines, path, [], []⟩
    (s.generator.renderer.render s.files s.generator.names template data).buffers
  split
  · rw [LineWriter.reset_finish, hall]
  · exact hall

theorem Reaches.keeps {g h : Generator} {ms : List Making} (hreach : g.Reaches ms h) :
    g.Keeps h := by
  induction hreach with
  | begin => exact ⟨rfl, rfl⟩
  | @start ms h _ ih =>
    refine ⟨ih.language, ?_⟩
    -- The rules ask again for processors that the first start has added.
    have hstart : g.start.lines = ruleLines g.language.rules.options g.lines := rfl
    have hagain : h.start.lines = ruleLines h.language.rules.options h.lines := rfl
    rw [hagain, ruleLines_eq, LineChain.reset_foldl_want, ih.lines, ih.language,
      ← LineChain.reset_foldl_want, hstart, ruleLines_eq, LineChain.foldl_want_foldl_want]
  | @next ms h resolver _ ih =>
    refine ⟨ih.language, ?_⟩
    have hlines : { h.nextFile with resolver }.lines = h.lines.reset := rfl
    rw [hlines, LineChain.reset_reset, ih.lines]
  | @make ms h resolver m _ hm ih =>
    have hlanguage : m.filled.2.generator.language = m.session.generator.language := rfl
    refine ⟨?_, ?_⟩
    · rw [hlanguage, hm]
      exact ih.language
    · have hlines : { h.nextFile with resolver }.lines = h.lines.reset := rfl
      rw [Making.filled, reset_fill, hm, hlines, LineChain.reset_reset, ih.lines]

end Generator

namespace Making

variable {naming : Naming} {before : List Making} {m : Making}

def first (m : Making) (g : Generator) : Making :=
  { m with session := { m.session with generator := g.start.nextFile } }

/-- Templates with the id of this one had the same text whenever they were read. -/
def SameTexts (m : Making) (before : List Making) : Prop :=
  ∀ other ∈ before, other.template.id = m.template.id →
    other.template.read other.session.files = m.template.read m.session.files

/-- No template but the one of this file has been compiled under the name. -/
def Free (m : Making) (before : List Making) (name : String) : Prop :=
  name = m.template.id ∨ compiledAs before name = none

/-- No part that the template refers to is another template that has been compiled: as a first file
this one does not miss such a part, and no reference with a body for that case may name one. -/
def StandsAlone (m : Making) (naming : Naming) (before : List Making) : Prop :=
  ∀ nodes, m.nodes = .ok nodes →
    AllAsk naming (m.Free before) nodes ∧
    ¬ Template.Render.Misses (m.Free before)
      (Template.render ⟨naming, [(m.template.id, nodes)]⟩ {} m.template.id nodes m.data).1

/-- Whether the file would not fail as a first one, and no reference of its template to a part has a
body for where there is none. -/
def isSelfContained (m : Making) (naming : Naming) : Bool :=
  match m.nodes with
  | .error _ => true
  | .ok nodes => Template.allStrict nodes &&
    (Template.render ⟨naming, [(m.template.id, nodes)]⟩ {} m.template.id nodes m.data).1.isOk

theorem standsAlone_of_isSelfContained (h : m.isSelfContained naming = true)
    (before : List Making) : m.StandsAlone naming before := by
  intro nodes hnodes
  rw [isSelfContained, hnodes, Bool.and_eq_true_iff] at h
  obtain ⟨hstrict, hok⟩ := h
  refine ⟨Template.allAsk_of_allStrict nodes hstrict, ?_⟩
  rintro ⟨name, -, hmissing⟩
  rw [hmissing] at hok
  cases hok

theorem SameTexts.nodes_eq (h : m.SameTexts before) {nodes : List Node}
    (hcompiled : compiledAs before m.template.id = some nodes) : m.nodes = .ok nodes := by
  obtain ⟨other, hmem, hid, hnodes⟩ := exists_of_compiledAs hcompiled
  rw [← hnodes]
  exact (TemplateRef.nodes_congr hid (h other hmem hid)).symm

/-- Beside the template of the file a table has others only under names that are not free. -/
theorem extends_of_lookup {nodes : List Node} (hask : AllAsk naming (m.Free before) nodes)
    {table : List (String × List Node)} (hown : table.lookup m.template.id = some nodes)
    (hothers : ∀ name, name ≠ m.template.id → table.lookup name = compiledAs before name) :
    Library.Extends (m.Free before) ⟨naming, [(m.template.id, nodes)]⟩ ⟨naming, table⟩ := by
  refine ⟨rfl, ?_, ?_⟩
  · intro name
    dsimp only
    by_cases hid : name = m.template.id
    · rw [hid, hown, List.lookup_cons_self]
      exact Or.inl rfl
    · rw [hothers name hid, List.lookup_cons, beq_eq_false_iff_ne.mpr hid]
      cases hcompiled : compiledAs before name with
      | none => exact Or.inl rfl
      | some found =>
        refine Or.inr ⟨?_, rfl⟩
        rintro (hname | hnone)
        · exact hid hname
        · rw [hcompiled] at hnone
          cases hnone
  · intro name found hfound
    dsimp only at hfound
    rw [List.lookup_cons] at hfound
    split at hfound
    · cases hfound
      exact hask
    · cases hfound

end Making

namespace Engine

variable {naming : Naming} {before : List Making} {m : Making} {e : Engine}

theorem Holds.compile_error (hholds : e.Holds naming before) (hsame : m.SameTexts before)
    {cause : GenerationError} (hnodes : m.nodes = .error cause) :
    e.compile m.session.files m.template = .error cause := by
  cases hcompiled : Making.compiledAs before m.template.id with
  | some nodes =>
    rw [hsame.nodes_eq hcompiled] at hnodes
    cases hnodes
  | none =>
    rw [Making.nodes] at hnodes
    rw [compile_new (by rw [hholds.lookup, hcompiled]), hnodes]
    rfl

/-- A file is rendered from the text of its own template, which the table holds afterwards beside
those before it. -/
theorem Holds.exists_compile (hholds : e.Holds naming before) (hsame : m.SameTexts before)
    {nodes : List Node} (hnodes : m.nodes = .ok nodes) :
    ∃ e', e.compile m.session.files m.template = .ok (nodes, e') ∧
      e'.compiled.lookup m.template.id = some nodes ∧
      ∀ name, name ≠ m.template.id → e'.compiled.lookup name = Making.compiledAs before name := by
  cases hcompiled : Making.compiledAs before m.template.id with
  | some found =>
    have hlookup : e.compiled.lookup m.template.id = some found := by rw [hholds.lookup, hcompiled]
    rw [hsame.nodes_eq hcompiled] at hnodes
    cases hnodes
    exact ⟨e, compile_known hlookup _, hlookup, fun name _ => hholds.lookup name⟩
  | none =>
    rw [Making.nodes] at hnodes
    refine ⟨e.keep m.template.id nodes, ?_, List.lookup_cons_self, ?_⟩
    · rw [compile_new (by rw [hholds.lookup, hcompiled]), hnodes]
      rfl
    · intro name hname
      rw [keep, List.lookup_cons, beq_eq_false_iff_ne.mpr hname, hholds.lookup]

/-- A template that stands alone is rendered as by an engine that has compiled nothing. -/
theorem Holds.render_eq (hholds : e.Holds naming before) (hsame : m.SameTexts before)
    (halone : m.StandsAlone naming before) :
    (e.render m.session.files {} m.template m.data).result =
      (render { naming } m.session.files {} m.template m.data).result ∧
    (e.render m.session.files {} m.template m.data).text =
      (render { naming } m.session.files {} m.template m.data).text := by
  have hfresh : compile { naming } m.session.files m.template =
      m.nodes.map fun nodes => (nodes, keep { naming } m.template.id nodes) :=
    compile_new rfl m.session.files
  cases hnodes : m.nodes with
  | error cause =>
    rw [hnodes] at hfresh
    rw [render, hholds.compile_error hsame hnodes, render, hfresh]
    exact ⟨rfl, rfl⟩
  | ok nodes =>
    rw [hnodes] at hfresh
    obtain ⟨e', hcompile, hown, hothers⟩ := hholds.exists_compile hsame hnodes
    obtain ⟨hask, hmisses⟩ := halone nodes hnodes
    have hextends := Making.extends_of_lookup hask hown hothers
    have hrender := (Template.render_of_extends hextends hask {} m.template.id m.data).resolve_right
      hmisses
    unfold render
    rw [hcompile, hfresh]
    dsimp only [Except.map, keep]
    rw [hholds.naming, hrender]
    split
    · exact ⟨rfl, rfl⟩
    · exact ⟨rfl, rfl⟩

end Engine

theorem Generate.fill_congr {s t : Session} {template : TemplateRef} {data : Json}
    (hfiles : s.files = t.files) (hlines : s.generator.lines = t.generator.lines)
    (hresult : (s.generator.renderer.render s.files s.generator.names template data).result =
      (t.generator.renderer.render t.files t.generator.names template data).result)
    (hbuffers : (s.generator.renderer.render s.files s.generator.names template data).buffers =
      (t.generator.renderer.render t.files t.generator.names template data).buffers)
    (loc : Location) (path : Path) :
    (fill s loc template data path).1 = (fill t loc template data path).1 ∧
      (fill s loc template data path).2.files = (fill t loc template data path).2.files := by
  unfold fill
  dsimp only
  rw [hresult, hbuffers, hlines, hfiles]
  exact ⟨rfl, rfl⟩

/-- Whatever a generator has made before, in this run or in others that may have failed, it comes to
each file with the names and the chain of a first file. Where the template stands alone, the file
ends and reads as if it were the first. -/
theorem Generator.filled_as_first {g : Generator} {naming : Naming}
    (hfresh : g.renderer = .templates { naming }) {history : List (FileSystem × Tree)}
    {before after : List Making} {m : Making} (hm : g.makings history = before ++ m :: after) :
    m.session.generator.names = {} ∧
    m.session.generator.lines = (m.first g).session.generator.lines ∧
    (m.SameTexts before → m.StandsAlone naming before →
      m.filled.1 = (m.first g).filled.1 ∧ m.filled.2.files = (m.first g).filled.2.files) := by
  obtain ⟨h, resolver, hreach, hgenerator⟩ := reaches_before hm
  obtain ⟨e, hrenderer, hholds⟩ := hreach.holds hfresh
  have hengine : m.session.generator.renderer = .templates e := by
    rw [hgenerator]
    exact hrenderer
  have hnames : m.session.generator.names = {} := by rw [hgenerator]; rfl
  have hlines : m.session.generator.lines = (m.first g).session.generator.lines := by
    rw [hgenerator]
    exact hreach.keeps.lines
  refine ⟨hnames, hlines, fun hsame halone => ?_⟩
  have hfirst : (m.first g).session.generator.renderer = .templates { naming } := hfresh
  obtain ⟨hresult, htext⟩ := hholds.render_eq hsame halone
  have hfilled := Generate.fill_congr (s := m.session) (t := (m.first g).session) rfl hlines
    (by rw [hengine, hfirst, hnames]; exact hresult)
    (by rw [hengine, hfirst, hnames]; exact congrArg (fun text => [Utf8.encode text]) htext)
    m.loc m.path
  exact hfilled

section Samples

def Tree.pair : Except GenerationError Tree :=
  build (fun _ => true)
    { types := [Sample.composite Sample.heartbeat .struct [] none,
        Sample.composite Sample.value .union [] none]
      distinct := by decide }
    ⟨"dsdl/demo"⟩ sampleLayout

def TemplateRef.partText : String :=
  "\x7b\x7b#*inline \"p\"\x7d\x7dP\x7b\x7b/inline\x7d\x7d\x7b\x7b> p\x7d\x7d"

def Generator.partSample : Generator :=
  ofTemplates [("SerializableType", TemplateRef.partText)] []

theorem Generator.filled_as_first_second :
    ∃ t first second, Tree.pair = .ok t ∧ partSample.makings [({}, t)] = [first, second] ∧
      second.filled.2.files.node? second.loc = some (.file 0o644 (Utf8.encodeString "P")) ∧
      second.filled.2.files = (second.first partSample).filled.2.files := by
  obtain ⟨t, hbuild, hmade⟩ := exists_of_map_eq_ok (show
    Tree.pair.map (fun t => (partSample.makings [({}, t)]).map fun m => (m.template,
      m.isSelfContained (Engine.ofLanguage partSample.language).naming,
      m.filled.2.files.node? m.loc)) =
      .ok (List.replicate 2 (⟨"SerializableType", .inline "demo" TemplateRef.partText⟩, true,
        some (.file 0o644 (Utf8.encodeString "P"))))
    by decide +kernel)
  obtain ⟨first, second, hmakings, hfirst, hsecond⟩ := exists_pair_of_map hmade
  simp only [Prod.mk.injEq] at hfirst hsecond
  obtain ⟨htemplate, -⟩ := hfirst
  obtain ⟨htemplate', halone, hfile⟩ := hsecond
  have hsplit : partSample.makings [({}, t)] = [first] ++ second :: [] := hmakings
  have hsame : second.SameTexts [first] := by
    intro other hother _
    rw [List.mem_singleton.mp hother, htemplate, htemplate']
    rfl
  obtain ⟨-, -, hfilled⟩ := filled_as_first rfl hsplit
  obtain ⟨-, hfiles⟩ := hfilled hsame (Making.standsAlone_of_isSelfContained halone _)
  exact ⟨t, first, second, hbuild, hmakings, hfile, hfiles⟩

def Generator.linkedSample : Generator :=
  ofTemplates
    [("StructureType", "S"), ("UnionType", "\x7b\x7b> 'demo:StructureType.hbs'\x7d\x7d")] []

/-- How the rendering into a file ends, and what the file is then. -/
structure Making.Outcome where
  result : Except GenerationError Unit
  file : Option FileNode
deriving DecidableEq

def Making.outcome (m : Making) : Outcome where
  result := m.filled.1
  file := m.filled.2.files.node? m.loc

/-- After a structure the file of the union holds the other template, and as a first file it fails:
the template that it refers to has not been compiled then. -/
theorem Generator.filled_unlike_first :
    ∃ t first second, Tree.pair = .ok t ∧ linkedSample.makings [({}, t)] = [first, second] ∧
      second.SameTexts [first] ∧
      second.outcome = ⟨.ok (), some (.file 0o644 (Utf8.encodeString "S"))⟩ ∧
      (second.first linkedSample).outcome =
        ⟨.error (.render "demo:UnionType.hbs"), some (.file 0o644 [])⟩ := by
  obtain ⟨t, hbuild, hmade⟩ := exists_of_map_eq_ok (show
    Tree.pair.map (fun t => (linkedSample.makings [({}, t)]).map fun m =>
      (m.template.id, [m.outcome, (m.first linkedSample).outcome])) =
      .ok [("demo:StructureType.hbs",
          List.replicate 2 ⟨.ok (), some (.file 0o644 (Utf8.encodeString "S"))⟩),
        ("demo:UnionType.hbs", [⟨.ok (), some (.file 0o644 (Utf8.encodeString "S"))⟩,
          ⟨.error (.render "demo:UnionType.hbs"), some (.file 0o644 [])⟩])]
    by decide +kernel)
  obtain ⟨first, second, hmakings, hfirst, hsecond⟩ := exists_pair_of_map hmade
  simp only [Prod.mk.injEq, List.cons.injEq] at hfirst hsecond
  obtain ⟨hid, -⟩ := hfirst
  obtain ⟨hid', houtcome, hfresh, -⟩ := hsecond
  refine ⟨t, first, second, hbuild, hmakings, ?_, houtcome, hfresh⟩
  intro other hother hsame
  rw [List.mem_singleton.mp hother, hid, hid'] at hsame
  exact absurd hsame (by decide)

end Samples

end SchemaForge
