import SchemaForge.Naming.Encoder
import SchemaForge.Path
import SchemaForge.Schema.Basic

/-! Where generated files go: below the output directory, one folder for each encoded component
of the namespace, then one file. -/

namespace SchemaForge

structure Layout where
  outputDir : Path
  extension : String
  namespaceStem : String
  encoder : Encoder

namespace Layout

def ofRules (outputDir : Path) (rules : LanguageRules) (encoder : Encoder) : Layout where
  outputDir := outputDir
  extension := rules.language.extension
  namespaceStem := rules.language.namespaceStem
  encoder := encoder

/-- Overrides the extension; the dot is added where it is missing. -/
def withExtension (l : Layout) (extension : String) : Layout :=
  { l with extension :=
      if extension.toList.head? = some '.' || extension.isEmpty then extension
      else "." ++ extension }

def withNamespaceStem (l : Layout) (stem : String) : Layout :=
  { l with namespaceStem := stem }

def encodeAll (l : Layout) (components : List String) : List String :=
  components.map l.encoder.encode

def relativeFolder (l : Layout) (components : List String) : Path :=
  Path.ofParts (l.encodeAll components)

def namespaceFileName (l : Layout) : String :=
  l.namespaceStem ++ l.extension

def typeStem (k : TypeKey) : String :=
  k.shortName ++ "_" ++ toString k.version.major.toNat ++ "_" ++ toString k.version.minor.toNat

def typeFileName (l : Layout) (k : TypeKey) : String :=
  typeStem k ++ l.extension

def relativeTypePath (l : Layout) (k : TypeKey) : Path :=
  (l.relativeFolder k.namespaceComponents).join ⟨l.typeFileName k⟩

def typePath (l : Layout) (k : TypeKey) : Path :=
  l.outputDir.join (l.relativeTypePath k)

end Layout

end SchemaForge
