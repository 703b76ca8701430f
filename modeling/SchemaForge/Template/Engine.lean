import SchemaForge.Language.Basic
import SchemaForge.Template.Parser
import SchemaForge.Template.Render
import SchemaForge.Template.Source

/-! Turning templates and data into output. Templates are compiled once and kept by their id, under
which later ones may include them. -/

namespace SchemaForge

structure Engine where
  naming : Template.Naming
  compiled : List (String × List Template.Node) := []

namespace Engine

def ofLanguage (l : Language) : Engine where
  naming := { encoder := l.encoder, domain := l.name, affix := l.rules.identifiers.uniqueAffix }

def compile (e : Engine) (fs : FileSystem) (t : TemplateRef) :
    Except GenerationError (List Template.Node × Engine) :=
  match e.compiled.lookup t.id with
  | some nodes => .ok (nodes, e)
  | none => do
    let source ← t.read fs
    match Template.parse source with
    | some nodes => .ok (nodes, { e with compiled := (t.id, nodes) :: e.compiled })
    | none => .error (.render t.id)

structure Rendered where
  result : Except GenerationError Unit
  text : List Char
  names : UniqueNames
  engine : Engine

def render (e : Engine) (fs : FileSystem) (names : UniqueNames) (t : TemplateRef) (data : Json) :
    Rendered :=
  match e.compile fs t with
  | .error cause => { result := .error cause, text := [], names, engine := e }
  | .ok (nodes, engine) =>
    let library := { naming := e.naming, templates := engine.compiled }
    let (result, text, names) := Template.render library names t.id nodes data
    match result with
    | .ok () => { result := .ok (), text, names, engine }
    | .error _ => { result := .error (.render t.id), text, names, engine }

end Engine

end SchemaForge
