import SchemaForge.Proofs.Generation.Compiled
import SchemaForge.Proofs.Namespace.Names
import SchemaForge.Proofs.Schema.Reachability
import SchemaForge.Proofs.Target.CppHeader

/-! The names of types in C++. The header of a type declares it in the namespaces that its qualified
name has, and the headers of other types refer to it by that name. -/

namespace SchemaForge

namespace Cpp

variable {l : Language} {c : Context} {t : CompositeType} {a : Attribute} {key : TypeKey}

/-- An engine that renders types with the template for headers, new to it or compiled before. -/
structure Renders (l : Language) (fs : FileSystem) (ref : TemplateRef) (engine : Engine) : Prop where
  encoder : engine.naming.encoder = l.encoder
  source : ref.read fs = .ok Target.cppCompositeType
  kept : ∀ nodes, engine.compiled.lookup ref.id = some nodes →
    Template.parse Target.cppCompositeType = some nodes

theorem Renders.serves {fs : FileSystem} {ref : TemplateRef} {engine : Engine}
    (h : Renders l fs ref engine) : engine.Serves l fs ref :=
  ⟨h.encoder, fun nodes hkept => TemplateRef.nodes_of_parse h.source (h.kept nodes hkept)⟩

theorem Renders.render {fs : FileSystem} {ref : TemplateRef} {engine : Engine}
    (h : Renders l fs ref engine) (names : UniqueNames) (c : Context) (catalog : Catalog)
    (t : CompositeType) (includes : List String) :
    (engine.render fs names ref (Data.forType l c catalog t includes)).result = .ok () ∧
      (engine.render fs names ref (Data.forType l c catalog t includes)).text =
        header l c t includes :=
  h.serves.render (TemplateRef.nodes_of_parse h.source Template.parse_cppCompositeType)
    (fun _ names id hlib => Template.render_cppTree hlib names id c catalog t includes) names

end Cpp

namespace Tree

variable {hasDir : Path → Bool} {catalog : Catalog} {rootDir : Path} {layout : Layout} {tree : Tree}
  {n : Namespace} {key : TypeKey} {path : Path}

end Tree

end SchemaForge
