import SchemaForge.Template.Parser
import SchemaForge.Text.Dotted

/-! Templates written down as the trees that they are parsed to. Trees are compared by computing,
so that a text and its tree can be checked against each other. -/

namespace SchemaForge

namespace Template

section Writing

def pathOf (names : List String) : ValuePath where
  raw := if names.isEmpty then "this" else Text.joinStrings "." names
  origin := .here 0
  names := names

def textOf (s : String) : Node :=
  .text s.toList

def valueOf (names : List String) : Node :=
  .value (.path (pathOf names))

def helped (helper : String) (names : List String) : Node :=
  .call ⟨helper, [.path (pathOf names)], []⟩

def helpedTwice (helper inner : String) (names : List String) : Node :=
  .call ⟨helper, [.call inner [.path (pathOf names)] []], []⟩

def eachOf (names : List String) (body : List Node) : Node :=
  .block ⟨"each", [.path (pathOf names)], []⟩ [] true body none

def ifSo (names : List String) (ownLine : Bool) (body : List Node) (inverse : Option (List Node)) :
    Node :=
  .block ⟨"if", [.path (pathOf names)], []⟩ [] ownLine body inverse

def unlessSo (names : List String) (body : List Node) : Node :=
  .block ⟨"unless", [.path (pathOf names)], []⟩ [] true body none

end Writing

section Comparing

/-- Whether two operands are the same path, or the same helper with the same path. -/
def Operand.agrees : Operand → Operand → Bool
  | .path p, .path q => p == q
  | .call name [.path p] [], .call name' [.path q] [] => name == name' && p == q
  | _, _ => false

theorem Operand.eq_of_agrees {o o' : Operand} (h : o.agrees o' = true) : o = o' := by
  unfold Operand.agrees at h
  split at h
  · rw [beq_iff_eq.mp h]
  · rw [Bool.and_eq_true, beq_iff_eq, beq_iff_eq] at h
    rw [h.1, h.2]
  · cases h

mutual

/-- Whether two nodes are the same, and of texts, values, helpers and blocks with one operand. -/
def Node.agrees : Node → Node → Bool
  | .text cs, .text ds => cs == ds
  | .value (.path p), .value (.path q) => p == q
  | .call ⟨name, [o], []⟩, .call ⟨name', [o'], []⟩ => name == name' && o.agrees o'
  | .block ⟨name, [.path p], []⟩ params own body inverse,
      .block ⟨name', [.path q], []⟩ params' own' body' inverse' =>
    name == name' && p == q && params == params' && own == own' && allAgree body body'
      && bodiesAgree inverse inverse'
  | _, _ => false

def allAgree : List Node → List Node → Bool
  | [], [] => true
  | n :: rest, n' :: rest' => n.agrees n' && allAgree rest rest'
  | _, _ => false

def bodiesAgree : Option (List Node) → Option (List Node) → Bool
  | none, none => true
  | some body, some body' => allAgree body body'
  | _, _ => false

end

theorem eq_of_allAgree : ∀ ns ms : List Node, allAgree ns ms = true → ns = ms := by
  refine allAgree.induct (fun n m => n.agrees m = true → n = m)
    (fun b c => bodiesAgree b c = true → b = c) (fun ns ms => allAgree ns ms = true → ns = ms)
    ?text ?value ?call ?block ?node ?nil ?cons ?nodes ?none ?some ?bodies
  case text =>
    intro cs ds h
    simp only [Node.agrees, beq_iff_eq] at h
    rw [h]
  case value =>
    intro p q h
    simp only [Node.agrees, beq_iff_eq] at h
    rw [h]
  case call =>
    intro name o name' o' h
    simp only [Node.agrees, Bool.and_eq_true, beq_iff_eq] at h
    rw [h.1, Operand.eq_of_agrees h.2]
  case block =>
    intro name p params own body inverse name' q params' own' body' inverse' hbody hinverse h
    simp only [Node.agrees, Bool.and_eq_true, beq_iff_eq] at h
    obtain ⟨⟨⟨⟨⟨rfl, rfl⟩, rfl⟩, rfl⟩, hsame⟩, hsame'⟩ := h
    rw [hbody hsame, hinverse hsame']
  case nil => exact fun _ => rfl
  case cons =>
    intro n rest m rest' hn hrest h
    simp only [allAgree, Bool.and_eq_true] at h
    rw [hn h.1, hrest h.2]
  case none => exact fun _ => rfl
  case some =>
    intro body body' hbody h
    rw [hbody h]
  all_goals
    intros
    simp_all [Node.agrees, allAgree, bodiesAgree]

theorem parse_of_allAgree {text : String} {cs : List Char} {tree : List Node}
    (htext : text = String.ofList cs)
    (htest : ((tokens cs).bind fun ts => nested (spaced {} [] ts)).any (allAgree · tree) = true) :
    parse text = some tree := by
  have hparse : parse text = (tokens cs).bind fun ts => nested (spaced {} [] ts) := by
    rw [parse, htext, String.toList_ofList]
    rfl
  rw [← hparse] at htest
  cases hnodes : parse text with
  | none =>
    rw [hnodes] at htest
    cases htest
  | some nodes =>
    rw [hnodes] at htest
    rw [eq_of_allAgree nodes tree htest]

end Comparing

end Template

end SchemaForge
