import SchemaForge.Pattern.Parser
import SchemaForge.Rules.Decode
import SchemaForge.Rules.Error
import SchemaForge.Toml.Parser

/-! Loading a rule table with overlays. A text that cannot be read as a table is blamed itself;
whatever is wrong with the merged rules is blamed on the text merged last. -/

namespace SchemaForge

namespace Rules

def isIdentifierChar (c : Char) : Bool :=
  c.isAlphanum || c == '_'

def isLanguageName (name : String) : Bool :=
  match name.toList with
  | [] => false
  | c :: rest => c.isAlpha && rest.all isIdentifierChar

def isGuardedStart : List Char → Bool
  | '_' :: c :: _ => c == '_' || c.isUpper
  | _ => false

def affixes (ids : IdentifierRules) : List (String × String) :=
  [("stropping_prefix", ids.stropBefore), ("stropping_suffix", ids.stropAfter),
    ("unique_name_affix", ids.uniqueAffix), ("encoding_prefix", ids.codeMark)]

def fault? (rules : LanguageRules) : Option RuleFault :=
  let ids := rules.identifiers
  if !isLanguageName rules.language.name then some (.languageName rules.language.name)
  else if rules.language.extension.isEmpty then some .emptyExtension
  else if rules.language.namespaceStem.isEmpty then some .emptyNamespaceStem
  else match (affixes ids).find? fun (_, v) => !v.toList.all isIdentifierChar with
    | some (field, value) => some (.badAffix field value)
    | none =>
      if ids.guardStart && isGuardedStart ids.codeMark.toList then some (.illegalMark ids.codeMark)
      else (ids.reservedPatterns.find? fun p => !(Pattern.parse p).isOk).map .badPattern

end Rules

/-- A table in the making, with the text that was merged into it last. -/
structure RuleDraft where
  table : Toml.Table
  source : RuleSource

namespace RuleDraft

def parse (source : RuleSource) : Except RuleError Toml.Table :=
  match Toml.parse source.text with
  | some t => .ok t
  | none => .error (.malformed source.name)

def ofSource (source : RuleSource) : Except RuleError RuleDraft := do
  .ok { table := ← parse source, source }

def overlay (draft : RuleDraft) (source : RuleSource) : Except RuleError RuleDraft := do
  .ok { table := draft.table.merge (← parse source), source }

def load (draft : RuleDraft) : Except RuleError LanguageRules :=
  match Rules.languageRules? draft.table with
  | none => .error (.malformed draft.source.name)
  | some rules =>
    match Rules.fault? rules with
    | some fault => .error (.ofFault draft.source fault)
    | none => .ok rules

end RuleDraft

end SchemaForge
