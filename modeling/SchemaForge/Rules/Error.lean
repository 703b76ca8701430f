import SchemaForge.Rules.Span

/-! What can be wrong with a rule table, and the wording of each fault. -/

namespace SchemaForge

structure RuleSource where
  name : String
  text : String
deriving Repr, DecidableEq

inductive IoKind where
  | notFound
  | alreadyExists
  | isADirectory
  | notADirectory
  | invalidData
  | invalidInput
  | invalidFilename
  | permissionDenied
  | storageFull
  | directoryNotEmpty
  | other
deriving Repr, DecidableEq

/-- A value that breaks a rule of the table it stands in. -/
inductive RuleFault where
  | languageName (name : String)
  | emptyExtension
  | emptyNamespaceStem
  | badAffix (field value : String)
  | illegalMark (mark : String)
  | badPattern (pattern : String)
deriving Repr, DecidableEq

inductive RuleError where
  | unreadable (path : String) (kind : IoKind)
  | malformed (source : String)
  | invalid (fault : RuleFault) (source : String) (span : Option Span)
  | unknownLanguage (name : String) (available : List String)
deriving Repr, DecidableEq

namespace RuleFault

def culprit? : RuleFault → Option String
  | languageName name => some name
  | emptyExtension => none
  | emptyNamespaceStem => none
  | badAffix _ value => some value
  | illegalMark mark => some mark
  | badPattern pattern => some pattern

def message : RuleFault → String
  | languageName name =>
    "language name '" ++ name
      ++ "' must start with a letter and contain only letters, digits and underscores"
  | emptyExtension => "extension must not be empty"
  | emptyNamespaceStem => "namespace_file_stem must not be empty"
  | badAffix field value =>
    field ++ " '" ++ value ++ "' may only contain letters, digits and underscores"
  | illegalMark mark => "'" ++ mark ++ "' is not allowed as an encoding prefix"
  | badPattern pattern => "invalid reserved pattern '" ++ pattern ++ "'"

end RuleFault

namespace RuleError

def message : RuleError → String
  | unreadable path _ => "failed to read '" ++ path ++ "'"
  | malformed _ => "failed to parse language rule table"
  | invalid fault _ _ => fault.message
  | unknownLanguage name _ => "unknown target language '" ++ name ++ "'"

def ofFault (source : RuleSource) (fault : RuleFault) : RuleError :=
  .invalid fault source.name (fault.culprit?.bind (Span.ofValue? source.text))

end RuleError

end SchemaForge
