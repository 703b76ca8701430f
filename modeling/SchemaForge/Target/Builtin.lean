import SchemaForge.Rules.Load
import SchemaForge.Target.Tables
import SchemaForge.Target.Templates
import SchemaForge.Text.Case

/-! The built-in target languages. -/

namespace SchemaForge

inductive Target where
  | c
  | cpp
  | python
  | javaScript
deriving Repr, DecidableEq

namespace Target

def all : List Target :=
  [c, cpp, python, javaScript]

def name : Target → String
  | c => "c"
  | cpp => "cpp"
  | python => "py"
  | javaScript => "js"

def ofName? (s : String) : Option Target :=
  match Text.lowerString s with
  | "c" => some c
  | "cpp" => some cpp
  | "c++" => some cpp
  | "cxx" => some cpp
  | "py" => some python
  | "python" => some python
  | "js" => some javaScript
  | "javascript" => some javaScript
  | _ => none

def unknownMessage (s : String) : String :=
  "unknown language '" ++ s ++ "', expected one of 'c', 'cpp', 'py', 'js'"

def table : Target → Toml.Table
  | c => cTable
  | cpp => cppTable
  | python => pythonTable
  | javaScript => javaScriptTable

def draft (t : Target) : RuleDraft :=
  { table := t.table, source := { name := t.name ++ ".toml", text := "" } }

def templates : Target → List (String × String)
  | c => [("CompositeType", cCompositeType), ("ServiceType", cServiceType),
      ("Namespace", cNamespace)]
  | cpp => [("CompositeType", cppCompositeType), ("Namespace", cppNamespace)]
  | python => [("CompositeType", pythonCompositeType), ("ServiceType", pythonServiceType),
      ("Namespace", pythonNamespace)]
  | javaScript => [("SerializableType", javaScriptSerializableType),
      ("Namespace", javaScriptNamespace)]

def supportTemplates : Target → List (String × String)
  | c => [("serialization", cSerialization)]
  | cpp => [("serialization", cppSerialization)]
  | python => []
  | javaScript => []

end Target

end SchemaForge
