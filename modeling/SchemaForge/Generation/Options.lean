import SchemaForge.Rules.Basic

/-! Options of a run; what is left open is decided by the rules of the language. -/

namespace SchemaForge

structure Options where
  dryRun : Bool := false
  overwrite : Bool := true
  namespaceTypes : Option Bool := none
  omitSupport : Option Bool := none
  /-- Tell templates the time of the run. -/
  audit : Bool := false
deriving Repr, DecidableEq

namespace Options

def namespaceTypesFor (o : Options) (rules : LanguageRules) : Bool :=
  o.namespaceTypes.getD rules.namespaceTypesDefault

def supportOmittedFor (o : Options) (rules : LanguageRules) : Bool :=
  o.omitSupport.getD rules.language.omitSupport

end Options

end SchemaForge
