import SchemaForge.Error
import SchemaForge.Schema.Catalog

/-! Why a command fails, and what it tells about it. -/

namespace SchemaForge

def IoKind.text : IoKind → String
  | notFound => "No such file or directory (os error 2)"
  | alreadyExists => "File exists (os error 17)"
  | isADirectory => "Is a directory (os error 21)"
  | notADirectory => "Not a directory (os error 20)"
  | invalidData => "stream did not contain valid UTF-8"
  | invalidInput => "file name contained an unexpected NUL byte"
  | invalidFilename => "File name too long (os error 36)"
  | permissionDenied => "Permission denied (os error 13)"
  | storageFull => "No space left on device (os error 28)"
  | directoryNotEmpty => "Directory not empty (os error 39)"
  | other => "other error"

namespace Cli

def diagnosticCode : RuleError → String
  | .unreadable _ _ => "dsdlgen::io"
  | .malformed _ => "dsdlgen::parse_error"
  | .invalid (.badPattern _) _ _ => "dsdlgen::invalid_pattern"
  | .invalid (.illegalMark _) _ _ => "dsdlgen::illegal_prefix"
  | .invalid _ _ _ => "dsdlgen::invalid_rule"
  | .unknownLanguage _ _ => "dsdlgen::unknown_language"

inductive Failure where
  | rules (error : RuleError)
  | setup (error : GenerationError)
  | unreadable (path : Path) (kind : IoKind)
  | badTypes (path : Path) (error : CatalogError)
  | configuration (error : GenerationError)
  | listing (error : GenerationError)
  | tree (error : GenerationError)
  | generation (error : GenerationError)
deriving Repr, DecidableEq

/-- What is told: the code of a diagnostic, or what failed and then why. Nothing is told of a
language whose rules are right but cannot be used. -/
def Failure.causes : Failure → List String
  | rules e => [diagnosticCode e]
  | setup _ => []
  | unreadable path kind => ["Failed to read " ++ path.text, kind.text]
  | badTypes path e => ["Invalid type list " ++ path.text, e.message]
  | configuration e => ["Invalid generator configuration", e.message]
  | listing e => ["Failed to list templates", e.message]
  | tree e => ["Failed to build the namespace tree", e.message]
  | generation e => ["Failed to generate code", e.message]

end Cli

end SchemaForge
