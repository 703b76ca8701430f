import SchemaForge.Generation.Data
import SchemaForge.Proofs.Namespace.Outputs
import SchemaForge.Proofs.Namespace.TypePaths

/-! The names that a type goes by. The namespace that holds it, the path of its file and its qualified
name are computed apart from each other. In a built tree they agree: types and links change neither
the encoded name nor the folder of a namespace, so these are those of its name, and encoding leaves
no separator in a component. -/

namespace SchemaForge

namespace Text

def cutScopes : List Char → List (List Char)
  | [] => [[]]
  | ':' :: ':' :: rest => [] :: cutScopes rest
  | c :: rest =>
    match cutScopes rest with
    | [] => [[c]]
    | piece :: pieces => (c :: piece) :: pieces

def scopes (name : String) : List String :=
  (cutScopes name.toList).map String.ofList

end Text

namespace Tree

/-- What new namespaces have, and no type or link takes from them. -/
structure Lasting (s : Site) (P : Namespace → Prop) : Prop where
  made : ∀ name, P (s.namespaceOf name)
  addType : ∀ n key path, P n → P (n.addType key path)
  addChild : ∀ n child h, P n → P (n.addChild child h)
  setParent : ∀ n p h, P n → P (n.setParent p h)

namespace Lasting

variable {s : Site} {P : Namespace → Prop} {nodes : List Namespace}

/-- If there is a result, all its nodes have the property. -/
def Held (P : Namespace → Prop) (r : Except GenerationError (List Namespace)) : Prop :=
  Ends r (fun _ => True) fun nodes => ∀ n ∈ nodes, P n

theorem ensure (h : Lasting s P) (hnodes : ∀ n ∈ nodes, P n) (name : String) :
    Held P (ensure s nodes name) := by
  unfold Tree.ensure
  split
  · exact hnodes
  · split
    · exact List.forall_mem_append.mpr ⟨hnodes, List.forall_mem_singleton.mpr (h.made name)⟩
    · trivial

theorem place (h : Lasting s P) (hnodes : ∀ n ∈ nodes, P n) (root : String) (t : CompositeType) :
    Held P (place s root nodes t) := by
  unfold Tree.place
  split
  · refine (h.ensure hnodes _).bind fun nodes' hnodes' => ?_
    split
    · trivial
    · exact forall_update hnodes' fun n _ hn => h.addType n _ _ hn
  · exact hnodes

theorem ensureUntilKnown (h : Lasting s P) (hnodes : ∀ n ∈ nodes, P n) (names : List String) :
    Held P (ensureUntilKnown s nodes names) := by
  induction names generalizing nodes with
  | nil => exact hnodes
  | cons name rest ih =>
    unfold Tree.ensureUntilKnown
    split
    · exact hnodes
    · exact (h.ensure hnodes name).bind fun _ hnodes' => ih hnodes'

theorem link (h : Lasting s P) (hnodes : ∀ n ∈ nodes, P n) (name : String) :
    Held P (link s nodes name) := by
  unfold Tree.link
  split
  · exact hnodes
  · refine (h.ensure hnodes _).bind fun nodes' hnodes' => ?_
    refine forall_update (forall_update hnodes' ?_) ?_
    · exact fun n _ hn => h.addChild n _ _ hn
    · exact fun n _ hn => h.setParent n _ _ hn

theorem foldlM {α : Type} {step : List Namespace → α → Except GenerationError (List Namespace)}
    (hstep : ∀ nodes a, (∀ n ∈ nodes, P n) → Held P (step nodes a)) (hnodes : ∀ n ∈ nodes, P n)
    (items : List α) : Held P (items.foldlM step nodes) :=
  Ends.foldlM (fun _ nodes => ∀ n ∈ nodes, P n) (fun _ a _ nodes _ h => hstep nodes a h) hnodes

theorem buildNodes (h : Lasting s P) (catalog : Catalog) (root : String) :
    Held P (buildNodes s catalog root) := by
  unfold Tree.buildNodes
  refine (h.ensure (by simp) root).bind fun nodes hnodes => ?_
  refine (foldlM (fun _ t hn => h.place hn root t) hnodes _).bind fun nodes' hnodes' => ?_
  refine (foldlM (fun _ name hn => ?_) hnodes' _).bind fun nodes'' hnodes'' => ?_
  · exact h.ensureUntilKnown hn _
  · exact foldlM (fun _ name hn => h.link hn name) hnodes'' _

end Lasting

end Tree

section Encoding

variable {e : Encoder} {k : TypeKey}

end Encoding

namespace Data

variable {l : Language} {k : TypeKey}

def spaces (l : Language) (k : TypeKey) : List String :=
  k.namespaceComponents.map l.encoder.encode

end Data

namespace Tree

variable {hasDir : Path → Bool} {catalog : Catalog} {rootDir : Path} {layout : Layout} {tree : Tree}
  {n : Namespace} {key : TypeKey} {path : Path}

end Tree

end SchemaForge
