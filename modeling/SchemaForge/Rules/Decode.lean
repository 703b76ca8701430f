import SchemaForge.Rules.Basic
import SchemaForge.Toml.Basic

/-! Rules out of a TOML table. Every section refuses keys it does not know; a section may also be
given as an array of its values in field order. -/

namespace SchemaForge.Rules

open Toml

def string? : Value → Option String
  | .string s => some s
  | _ => none

def boolean? : Value → Option Bool
  | .boolean b => some b
  | _ => none

def count? : Value → Option Nat
  | .integer n => if 0 ≤ n then some n.toNat else none
  | _ => none

def strings? : Value → Option (List String)
  | .array items => items.mapM string?
  | _ => none

def insertWord (word : String) : List String → List String
  | [] => [word]
  | w :: rest =>
    if word < w then word :: w :: rest
    else if word = w then w :: rest
    else w :: insertWord word rest

def sortedWords (words : List String) : List String :=
  words.foldl (fun acc w => insertWord w acc) []

def insertName (key value : String) : List (String × String) → List (String × String)
  | [] => [(key, value)]
  | (k, v) :: rest =>
    if key < k then (key, value) :: (k, v) :: rest
    else if key = k then (key, value) :: rest
    else (k, v) :: insertName key value rest

def names? : Value → Option (List (String × String))
  | .table entries =>
    entries.foldlM (fun acc (k, v) => (string? v).map fun s => insertName k s acc) []
  | _ => none

def section? (fields : List String) : Value → Option Table
  | .table entries => if entries.all (fun (k, _) => fields.contains k) then some entries else none
  | .array items => if items.length ≤ fields.length then some (fields.zip items) else none
  | _ => none

def field (read : Value → Option α) (entries : Table) (key : String) (default : α) : Option α :=
  match entries.lookup key with
  | some v => read v
  | none => some default

def languageFields : List String :=
  ["name", "extension", "namespace_file_stem", "has_standard_namespace_files",
    "enable_stropping", "omit_serialization_support", "support_namespace"]

def languageSection? (v : Value) : Option LanguageSection := do
  let t ← section? languageFields v
  let name ← (t.lookup "name").bind string?
  let extension ← (t.lookup "extension").bind string?
  let base : LanguageSection := { name, extension }
  some { base with
    namespaceStem := ← field string? t "namespace_file_stem" base.namespaceStem
    namespaceFiles := ← field boolean? t "has_standard_namespace_files" base.namespaceFiles
    stropping := ← field boolean? t "enable_stropping" base.stropping
    omitSupport := ← field boolean? t "omit_serialization_support" base.omitSupport
    supportNamespace := ← field strings? t "support_namespace" base.supportNamespace }

def identifierFields : List String :=
  ["stropping_prefix", "stropping_suffix", "encoding_prefix", "unique_name_affix",
    "enforce_c_prefix_rules", "encode_double_underscores", "reserved_identifiers",
    "reserved_patterns"]

def identifierRules? (v : Value) : Option IdentifierRules := do
  let t ← section? identifierFields v
  let base : IdentifierRules := {}
  some {
    stropBefore := ← field string? t "stropping_prefix" base.stropBefore
    stropAfter := ← field string? t "stropping_suffix" base.stropAfter
    codeMark := ← field string? t "encoding_prefix" base.codeMark
    uniqueAffix := ← field string? t "unique_name_affix" base.uniqueAffix
    guardStart := ← field boolean? t "enforce_c_prefix_rules" base.guardStart
    splitDouble := ← field boolean? t "encode_double_underscores" base.splitDouble
    reservedWords := sortedWords (← field strings? t "reserved_identifiers" base.reservedWords)
    reservedPatterns := ← field strings? t "reserved_patterns" base.reservedPatterns }

def optionFields : List String :=
  ["limit_empty_lines", "trim_trailing_whitespace", "prefer_system_includes", "std_includes",
    "generate_namespace_types"]

def languageOptions? (v : Value) : Option LanguageOptions := do
  let t ← section? optionFields v
  some {
    limitEmptyLines := ← field (fun v => (count? v).map some) t "limit_empty_lines" none
    trimTrailing := ← field boolean? t "trim_trailing_whitespace" false
    systemIncludes := ← field boolean? t "prefer_system_includes" false
    stdIncludes := ← field strings? t "std_includes" []
    namespaceTypes := ← field (fun v => (boolean? v).map some) t "generate_namespace_types" none }

def sectionNames : List String :=
  ["language", "identifiers", "named_types", "named_values", "options"]

def languageRules? (t : Table) : Option LanguageRules := do
  let t ← section? sectionNames (.table t)
  some {
    language := ← (t.lookup "language").bind languageSection?
    identifiers := ← field identifierRules? t "identifiers" {}
    namedTypes := ← field names? t "named_types" []
    namedValues := ← field names? t "named_values" []
    options := ← field languageOptions? t "options" {} }

end SchemaForge.Rules
