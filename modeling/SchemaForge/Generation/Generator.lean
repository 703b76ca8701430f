import SchemaForge.Generation.Data
import SchemaForge.Generation.Renderer
import SchemaForge.Includes
import SchemaForge.Output.Processor
import SchemaForge.Output.Writer
import SchemaForge.Template.Resolver

/-! The generation of all files of a run: support files first, then the files of types and
namespaces in the order of the tree. A run that fails keeps the files written before. -/

namespace SchemaForge

structure Generator where
  language : Language
  layout : Layout
  options : Options
  context : Context
  resolver : Resolver
  /-- Directories whose templates take precedence, the first over the others. -/
  overrideDirs : List Path := []
  renderer : Renderer
  names : UniqueNames := {}
  lines : LineChain := {}
  processors : List FileProcessor := []

structure Session where
  generator : Generator
  files : FileSystem

/-- A step of a run: it may fail, and has changed the session either way. -/
abbrev Generate := ExceptT GenerationError (StateM Session)

namespace Generator

def ofLanguage (l : Language) (outputDir : Path) (options : Options) (now : Int) : Generator where
  language := l
  layout := Layout.ofRules outputDir l.rules l.encoder
  options := options
  context := Context.ofRun l options now
  resolver := Resolver.addSource {} (TemplateSource.ofTemplates l.name l.plugin.templates)
  renderer := .templates (Engine.ofLanguage l)

/-- Adds a template directory, after those added before and ahead of the language's templates. -/
def withTemplateDir (g : Generator) (fs : FileSystem) (dir : Path) :
    Except GenerationError Generator := do
  let source ← TemplateSource.ofDirectory fs dir
  .ok { g with
    resolver := g.resolver.insertSource g.overrideDirs.length source
    overrideDirs := g.overrideDirs ++ [dir] }

def withTemplateDirs (g : Generator) (fs : FileSystem) (dirs : List Path) :
    Except GenerationError Generator :=
  dirs.foldlM (fun g dir => g.withTemplateDir fs dir) g

def withExtension (g : Generator) (extension : Option String) : Generator :=
  match extension with
  | some e => { g with layout := g.layout.withExtension e }
  | none => g

def withNamespaceStem (g : Generator) (stem : Option String) : Generator :=
  match stem with
  | some s => { g with layout := g.layout.withNamespaceStem s }
  | none => g

/-- The template of a support file; one in an override directory takes precedence. -/
def supportTemplate (g : Generator) (fs : FileSystem) (stem text : String) : TemplateRef :=
  let candidates := g.overrideDirs.map fun dir => (dir.join ⟨"support"⟩).join ⟨stem ++ ".hbs"⟩
  match candidates.find? fs.isFile with
  | some path => ⟨stem, .file path⟩
  | none => ⟨stem, .inline g.language.name text⟩

def supportTemplates (g : Generator) (fs : FileSystem) : List TemplateRef :=
  g.language.plugin.supportTemplates.map fun (stem, text) => g.supportTemplate fs stem text

def listTemplates (g : Generator) (fs : FileSystem) : Except GenerationError (List TemplateRef) := do
  .ok ((← g.resolver.listTemplates fs) ++ g.supportTemplates fs)

/-- The line processors that the rules of the language ask for, added where the chain lacks them. -/
def ruleLines (options : LanguageOptions) (chain : LineChain) : LineChain :=
  let chain :=
    if options.trimTrailing && !chain.contains LineProcessor.trimName then
      chain.push LineProcessor.trimTrailing
    else chain
  match options.limitEmptyLines with
  | some max =>
    if chain.contains LineProcessor.limitName then chain else chain.push (LineProcessor.limitEmpty max)
  | none => chain

def start (g : Generator) : Generator :=
  { g with
    resolver := g.resolver.clearCache
    lines := ruleLines g.language.rules.options g.lines }

def nextFile (g : Generator) : Generator :=
  { g with names := {}, lines := g.lines.reset }

def supportPath (g : Generator) (stem : String) : Path :=
  let folder := g.layout.outputDir.join
    (g.layout.relativeFolder g.language.rules.language.supportNamespace)
  folder.join ⟨stem ++ g.layout.extension⟩

end Generator

namespace Generate

/-- How the writing of a file ended: a failure of the writer comes before one of the template. -/
def outcome (template : TemplateRef) (written : Except WriteError Unit)
    (rendered : Except GenerationError Unit) : Except GenerationError Unit :=
  match written with
  | .error (.cause e) => .error e
  | .error .invalidText => .error (.render template.id)
  | .ok () => rendered

def fill (s : Session) (loc : Location) (template : TemplateRef) (data : Json) (path : Path) :
    Except GenerationError Unit × Session :=
  let g := s.generator
  let done := g.renderer.render s.files g.names template data
  let writer : LineWriter := { sink := {}, chain := g.lines, path }
  let (written, writer) := writer.writeAll done.buffers
  let (result, writer) := match outcome template written done.result with
    | .ok () => writer.finish
    | .error e => (.error e, writer)
  (result, {
    generator := { g with names := done.names, renderer := done.renderer, lines := writer.chain }
    files := s.files.append loc writer.sink.bytes })

def write (template : TemplateRef) (data : Json) (path : Path) : Generate Path := do
  let s ← get
  let (created, files) := s.files.createOutput path s.generator.options.overwrite
  set { s with files }
  let loc ← liftExcept created
  let (result, s) := fill { s with files } loc template data path
  set s
  liftExcept result
  let (result, files) := FileProcessor.runAll s.files path s.generator.processors
  set { s with files }
  liftExcept result
where
  liftExcept {α : Type} : Except GenerationError α → Generate α
    | .ok a => pure a
    | .error e => throw e

def supportFile (template : TemplateRef) : Generate Path := do
  modify fun s => { s with generator := s.generator.nextFile }
  let g := (← get).generator
  let path := g.supportPath template.stem
  if g.options.dryRun then pure path
  else write template (Data.forSupport g.language g.context template.stem) path

def support : Generate (List Path) := do
  let s ← get
  if s.generator.context.omitSupport then pure []
  else (s.generator.supportTemplates s.files).mapM supportFile

def resolve (entity : Entity) : Generate TemplateRef := do
  let s ← get
  let (found, resolver) := s.generator.resolver.resolve s.files (EntityKind.ofEntity entity) entity.fullName
  set { s with generator := { s.generator with resolver } }
  match found with
  | .ok t => pure t
  | .error e => throw e

def dataFor (g : Generator) (tree : Tree) (includes : List String) : Entity → Json
  | .type t => Data.forType g.language g.context tree.catalog t includes
  | .space n => Data.forNamespace g.language g.context n

def entity (tree : Tree) (e : Entity) (path : Path) (includes : List String) : Generate Path := do
  modify fun s => { s with generator := s.generator.nextFile }
  let template ← resolve e
  let g := (← get).generator
  if g.options.dryRun then pure path
  else write template (dataFor g tree includes e) path

def includesFor (g : Generator) (tree : Tree) (headers : List (List Path.Component)) :
    Entity → List String
  | .type t =>
    if g.options.dryRun then []
    else
      let scope : IncludeScope :=
        { tree, layout := g.layout, language := g.language, support := headers }
      scope.includesOf t
  | .space _ => []

def all (tree : Tree) : Generate (List Path) := do
  modify fun s => { s with generator := s.generator.start }
  let supportPaths ← support
  let g := (← get).generator
  let headers := supportPaths.filterMap fun p => p.relativeTo? g.layout.outputDir
  let entities := if g.context.namespaceTypes then tree.entities else tree.types
  let paths ← entities.mapM fun (e, path) => entity tree e path (includesFor g tree headers e)
  pure (supportPaths ++ paths)

end Generate

def Session.generateAll (s : Session) (tree : Tree) :
    Except GenerationError (List Path) × Session :=
  (Generate.all tree).run.run s

end SchemaForge
