import SchemaForge.Error
import SchemaForge.FileSystem

/-! Where templates come from: files in a directory, texts held in memory, or anything else that
answers for a stem. -/

namespace SchemaForge

inductive TemplatePlace where
  | file (path : Path)
  | inline (origin text : String)
deriving Repr, DecidableEq

structure TemplateRef where
  stem : String
  place : TemplatePlace
deriving Repr, DecidableEq

namespace TemplateRef

def id (t : TemplateRef) : String :=
  match t.place with
  | .file path => path.text
  | .inline origin _ => origin ++ ":" ++ t.stem ++ ".hbs"

def read (fs : FileSystem) (t : TemplateRef) : Except GenerationError String :=
  match t.place with
  | .file path => match fs.readText path with
    | .ok text => .ok text
    | .error kind => .error (.io path kind)
  | .inline _ text => .ok text

end TemplateRef

inductive TemplateSource where
  | directory (dir : Path)
  | inline (origin : String) (templates : List (String × String))
  /-- Any other source, by what it answers to a stem and what it lists. -/
  | custom (answer : FileSystem → String → Option TemplateRef)
      (listing : FileSystem → Except GenerationError (List TemplateRef))

namespace TemplateSource

/-- Adds a template; one of the same stem is dropped. -/
def addTemplate (templates : List (String × String)) (t : String × String) :
    List (String × String) :=
  templates.filter (fun u => u.1 ≠ t.1) ++ [t]

def ofTemplates (origin : String) (templates : List (String × String)) : TemplateSource :=
  .inline origin (templates.foldl addTemplate [])

def ofDirectory (fs : FileSystem) (dir : Path) : Except GenerationError TemplateSource :=
  if fs.isDirectory dir then .ok (.directory dir)
  else .error (.configuration ("template directory " ++ dir.text ++ " does not exist"))

def fileOf (dir : Path) (stem : String) : Path :=
  dir.join ⟨stem ++ ".hbs"⟩

def find? (fs : FileSystem) (source : TemplateSource) (stem : String) : Option TemplateRef :=
  match source with
  | .directory dir =>
    if fs.isFile (fileOf dir stem) then some ⟨stem, .file (fileOf dir stem)⟩ else none
  | .inline origin templates =>
    (templates.lookup stem).map fun text => ⟨stem, .inline origin text⟩
  | .custom answer _ => answer fs stem

def byStem (a b : TemplateRef) : Bool :=
  !(b.stem < a.stem)

def templateIn? (fs : FileSystem) (dir : Path) (name : String) : Option TemplateRef :=
  let path := dir.join ⟨name⟩
  match Path.splitName name with
  | (stem, some "hbs") => if fs.isFile path then some ⟨stem, .file path⟩ else none
  | _ => none

/-- Every template of the source; files and held texts are sorted by stem. -/
def list (fs : FileSystem) (source : TemplateSource) : Except GenerationError (List TemplateRef) :=
  match source with
  | .directory dir =>
    match fs.listDirectory dir with
    | .ok names => .ok ((names.filterMap (templateIn? fs dir)).mergeSort byStem)
    | .error kind => .error (.io dir kind)
  | .inline origin templates =>
    .ok ((templates.map fun (stem, text) => ⟨stem, .inline origin text⟩).mergeSort byStem)
  | .custom _ listing => listing fs

end TemplateSource

end SchemaForge
