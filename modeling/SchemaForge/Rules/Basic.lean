/-! Rule tables: all that distinguishes one target language from another without code. -/

namespace SchemaForge

structure LanguageSection where
  name : String
  extension : String
  namespaceStem : String := "_namespace"
  namespaceFiles : Bool := false
  stropping : Bool := true
  omitSupport : Bool := false
  /-- Folder components under which support files are written. -/
  supportNamespace : List String := ["dsdlgen", "support"]
deriving Repr, DecidableEq

structure IdentifierRules where
  /-- Written before and after a reserved token. -/
  stropBefore : String := "_"
  stropAfter : String := ""
  /-- Written before the hex code of an encoded character. -/
  codeMark : String := "ZX"
  uniqueAffix : String := "_"
  /-- Identifiers may start neither with `__` nor with `_` and a capital. -/
  guardStart : Bool := false
  /-- No `__` may stay anywhere. -/
  splitDouble : Bool := false
  reservedWords : List String := []
  reservedPatterns : List String := []
deriving Repr, DecidableEq

structure LanguageOptions where
  limitEmptyLines : Option Nat := none
  trimTrailing : Bool := false
  systemIncludes : Bool := false
  stdIncludes : List String := []
  namespaceTypes : Option Bool := none
deriving Repr, DecidableEq

structure LanguageRules where
  language : LanguageSection
  identifiers : IdentifierRules := {}
  namedTypes : List (String × String) := []
  namedValues : List (String × String) := []
  options : LanguageOptions := {}
deriving Repr, DecidableEq

namespace LanguageRules

/-- Whether namespaces get files of their own unless a run says otherwise. -/
def namespaceTypesDefault (rules : LanguageRules) : Bool :=
  rules.options.namespaceTypes.getD rules.language.namespaceFiles

def namedType (rules : LanguageRules) (name : String) : String :=
  (rules.namedTypes.lookup name).getD name

def namedValue (rules : LanguageRules) (value : String) : String :=
  (rules.namedValues.lookup value).getD value

end LanguageRules

end SchemaForge
