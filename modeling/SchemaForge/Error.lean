import SchemaForge.Path
import SchemaForge.Rules.Error
import SchemaForge.Schema.Basic

/-! Everything that can stop a generation run, and the wording of each cause. -/

namespace SchemaForge

inductive GenerationError where
  | configuration (message : String)
  | rules (error : RuleError)
  | sourceNotFound (space : String) (path : Path)
  | typeNotFound (key : TypeKey)
  | templateNotFound (entity kind : String)
  | overwriteDenied (path : Path)
  /-- A line processor returned what is no line. -/
  | contract (processor message : String)
  | processorFailed (processor : String) (path : Path) (message : String)
  | render (template : String)
  | io (path : Path) (kind : IoKind)
deriving Repr, DecidableEq

namespace GenerationError

def message : GenerationError → String
  | configuration m => "configuration error: " ++ m
  | rules e => e.message
  | sourceNotFound space path =>
    "source directory for namespace '" ++ space ++ "' not found: " ++ path.text
  | typeNotFound key => "type '" ++ key.display ++ "' not found in any namespace"
  | templateNotFound entity kind =>
    "no template found for " ++ entity ++ " (" ++ kind ++ " or any of its base kinds)"
  | overwriteDenied path => path.text ++ " exists and overwrite is not allowed"
  | contract processor m => "post-processor '" ++ processor ++ "' violated its contract: " ++ m
  | processorFailed processor path m =>
    "post-processor '" ++ processor ++ "' failed on " ++ path.text ++ ": " ++ m
  | render template => "failed to render '" ++ template ++ "'"
  | io path _ => "i/o error on " ++ path.text

end GenerationError

end SchemaForge
