import SchemaForge.Schema.Catalog

/-! A small schema that shows every kind of type: structures, a union, a nested namespace, a
namespace named by a reserved word, and a service. -/

namespace SchemaForge.Sample

def version : Version := ⟨1, 0⟩

def heartbeat : TypeKey := ⟨"demo.Heartbeat", version⟩
def value : TypeKey := ⟨"demo.if.Value", version⟩
def reading : TypeKey := ⟨"demo.sensors.Reading", version⟩
def ping : TypeKey := ⟨"demo.Ping", version⟩
def pingRequest : TypeKey := ⟨"demo.Ping.Request", version⟩
def pingResponse : TypeKey := ⟨"demo.Ping.Response", version⟩

def field (name : String) (dataType : DataType) : Attribute :=
  { name, kind := .field, dataType }

def composite (key : TypeKey) (kind : CompositeKind) (attributes : List Attribute)
    (parentService : Option TypeKey) : CompositeType :=
  { fullName := key.fullName, version := key.version, kind, attributes, parentService }

def types : List CompositeType := [
  composite heartbeat .struct [
    { name := "MAX_HEALTH", kind := .constant "3", dataType := .primitive (.unsigned 8) },
    field "uptime" (.primitive (.unsigned 32)),
    field "health" (.primitive (.unsigned 8))] none,
  composite value .union [
    field "integer" (.primitive (.signed 32)),
    field "real" (.primitive (.float 64)),
    field "flag" (.primitive .boolean)] none,
  composite reading .struct [
    field "value" (.composite value),
    field "samples" (.array (.primitive (.float 32)) (.upTo 8))] none,
  composite ping (.service pingRequest pingResponse) [] none,
  composite pingRequest .struct [field "sequence" (.primitive (.unsigned 16))] (some ping),
  composite pingResponse .struct [field "heartbeat" (.composite heartbeat)] (some ping)]

def catalog : Catalog := { types, distinct := by decide }

end SchemaForge.Sample
