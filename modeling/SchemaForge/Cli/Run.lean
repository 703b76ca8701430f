import SchemaForge.Cli.Arguments
import SchemaForge.Cli.Failure
import SchemaForge.Cli.Report
import SchemaForge.Generation.Generator
import SchemaForge.Namespace.Building

/-! Running a command on a file system. A status of 2 tells of a mistake on the command line, one
of 1 of a failure. -/

namespace SchemaForge.Cli

structure Outcome where
  status : Nat
  output : String := ""
  /-- What went wrong, if the status is 1. -/
  causes : List String := []
  files : FileSystem

structure Request where
  types : Path
  root : Path
  scan : Scan

namespace Request

def outputDir (r : Request) : Path :=
  ⟨(r.scan.value? .outdir).getD "dsdlgen_out"⟩

def language (r : Request) : String :=
  (r.scan.value? .language).getD "c"

def paths (r : Request) (setting : Setting) : List Path :=
  (r.scan.values setting).map Path.mk

def options (r : Request) : Options where
  dryRun := r.scan.has .dryRun || r.scan.has .listOutputs
  overwrite := !r.scan.has .noOverwrite
  namespaceTypes :=
    if r.scan.has .namespaceTypes then some true
    else if r.scan.has .noNamespaceTypes then some false
    else none
  omitSupport := if r.scan.has .omitSupport then some true else none
  audit := r.scan.has .audit

def lineProcessors (r : Request) : List LineProcessor :=
  (if r.scan.has .trimTrailing then [LineProcessor.trimTrailing] else [])
    ++ (((r.scan.value? .maxEmptyLines).bind count?).map LineProcessor.limitEmpty).toList

def fileProcessors (r : Request) : List FileProcessor :=
  (((r.scan.value? .fileMode).bind fileMode?).map FileProcessor.setMode).toList
    ++ ((r.scan.value? .runProgram).map fun program =>
      FileProcessor.program program (r.scan.values .runProgramArg) true).toList

def loadLanguage (r : Request) (fs : FileSystem) : Except Failure Language :=
  let loaded := do Language.load fs (← Registry.builtin.get r.language) (r.paths .languageConfig)
  match loaded with
  | .ok l => .ok l
  | .error (.rules e) => .error (.rules e)
  | .error e => .error (.setup e)

def generator (r : Request) (fs : FileSystem) (l : Language) (now : Int) :
    Except Failure Generator := do
  let base := Generator.ofLanguage l r.outputDir r.options now
  let g ← (base.withTemplateDirs fs (r.paths .templates)).mapError Failure.configuration
  let g := (g.withExtension (r.scan.value? .extension)).withNamespaceStem
    (r.scan.value? .namespaceStem)
  .ok { g with lines := LineChain.ofList r.lineProcessors, processors := r.fileProcessors }

def catalog (r : Request) (fs : FileSystem) : Except Failure Catalog :=
  match fs.readText r.types with
  | .error kind => .error (.unreadable r.types kind)
  | .ok text => (Document.readCatalog text).mapError (Failure.badTypes r.types)

def inputs (r : Request) (fs : FileSystem) (now : Int) : Except Failure (List String) := do
  let l ← r.loadLanguage fs
  let g ← r.generator fs l now
  let templates ← (g.listTemplates fs).mapError Failure.listing
  .ok (r.types.text :: templates.map (·.id))

def prepare (r : Request) (fs : FileSystem) (now : Int) : Except Failure (Generator × Tree) := do
  let l ← r.loadLanguage fs
  let catalog ← r.catalog fs
  let g ← r.generator fs l now
  let tree ← (Tree.build fs.isDirectory catalog r.root g.layout).mapError Failure.tree
  .ok (g, tree)

def report (r : Request) (g : Generator) (tree : Tree) (files : List Path) : GenerateReport where
  language := g.language.name
  rootNamespace := tree.rootName
  outputDir := r.outputDir
  files := files
  dryRun := r.options.dryRun

end Request

def failed (fs : FileSystem) (failure : Failure) : Outcome :=
  { status := 1, causes := failure.causes, files := fs }

def generate (r : Request) (fs : FileSystem) (now : Int) : Outcome :=
  if r.scan.has .listInputs then
    match r.inputs fs now with
    | .ok inputs => { status := 0, output := Text.joinStrings ";" inputs, files := fs }
    | .error e => failed fs e
  else
    match r.prepare fs now with
    | .error e => failed fs e
    | .ok (g, tree) =>
      match Session.generateAll ⟨g, fs⟩ tree with
      | (.error e, s) => failed s.files (.generation e)
      | (.ok paths, s) =>
        let output :=
          if r.scan.has .listOutputs then Text.joinStrings ";" (paths.map (·.text))
          else reportText (r.report g tree paths).lines
        { status := 0, output, files := s.files }

def languages (fs : FileSystem) : Except GenerationError (List Language) :=
  Registry.builtin.plugins.mapM fun p => Language.load fs p []

def versionText : String := "dsdlgen 0.3.0\n"

def run (fs : FileSystem) (now : Int) (args : List String) : Outcome :=
  match parse args with
  | .error (.mistake _) => { status := 2, files := fs }
  | .error .help => { status := 0, files := fs }
  | .error .version => { status := 0, output := versionText, files := fs }
  | .ok .languages =>
    match languages fs with
    | .ok ls => { status := 0, output := reportText (languagesLines ls), files := fs }
    | .error e => failed fs (.setup e)
  | .ok (.generate types root scan) => generate ⟨⟨types⟩, ⟨root⟩, scan⟩ fs now

end SchemaForge.Cli
