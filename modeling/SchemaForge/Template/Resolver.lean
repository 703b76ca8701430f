import SchemaForge.Template.Kind
import SchemaForge.Template.Source

/-! Finding the template for a kind: the kinds of its search order are tried one by one, each in
every source by priority. Hits are remembered until the sources change. -/

namespace SchemaForge

structure Resolver where
  /-- Sources, the highest priority first. -/
  sources : List TemplateSource := []
  cache : List (EntityKind × TemplateRef) := []

namespace Resolver

def addSource (r : Resolver) (s : TemplateSource) : Resolver :=
  { sources := r.sources ++ [s], cache := [] }

def insertSource (r : Resolver) (index : Nat) (s : TemplateSource) : Resolver :=
  { sources := r.sources.take index ++ s :: r.sources.drop index, cache := [] }

def clearCache (r : Resolver) : Resolver :=
  { r with cache := [] }

def lookup? (fs : FileSystem) (sources : List TemplateSource) (kind : EntityKind) :
    Option TemplateRef :=
  kind.searchOrder.findSome? fun k => sources.findSome? fun s => s.find? fs k.name

/-- The template for a kind; `entity` is named where there is none. -/
def resolve (r : Resolver) (fs : FileSystem) (kind : EntityKind) (entity : String) :
    Except GenerationError TemplateRef × Resolver :=
  match r.cache.lookup kind with
  | some t => (.ok t, r)
  | none =>
    match lookup? fs r.sources kind with
    | some t => (.ok t, { r with cache := (kind, t) :: r.cache })
    | none => (.error (.templateNotFound entity kind.name), r)

def listTemplates (r : Resolver) (fs : FileSystem) : Except GenerationError (List TemplateRef) := do
  .ok (← r.sources.mapM (·.list fs)).flatten

end Resolver

end SchemaForge
