import SchemaForge.Generation.Options
import SchemaForge.Json.Basic
import SchemaForge.Language.Basic
import SchemaForge.Text.Timestamp

/-! What every template of a run may see. -/

namespace SchemaForge

structure Context where
  generatorVersion : String := "0.3.0"
  /-- The time of the run, where it is embedded. -/
  timestamp : Option String := none
  language : String
  omitSupport : Bool
  namespaceTypes : Bool
deriving Repr, DecidableEq

namespace Context

def ofRun (l : Language) (o : Options) (now : Int) : Context where
  timestamp := if o.audit then some (Timestamp.text now) else none
  language := l.name
  omitSupport := o.supportOmittedFor l.rules
  namespaceTypes := o.namespaceTypesFor l.rules

def withTimestamp (c : Context) (seconds : Int) : Context :=
  { c with timestamp := some (Timestamp.text seconds) }

def toJson (c : Context) : Json :=
  .obj [
    ("generate_namespace_types", .bool c.namespaceTypes),
    ("generator_version", .str c.generatorVersion),
    ("language", .str c.language),
    ("omit_serialization_support", .bool c.omitSupport),
    ("timestamp", Json.ofOption .str c.timestamp)]

end Context

end SchemaForge
