import SchemaForge.Proofs.Template.Parts

/-! What templates print. A step that prints a text and fails in nothing adds it to what has been
printed, as long as no lines are indented, and such steps go together like their texts. So the text
of a template comes from those of its nodes, and these from the values that their paths lead to. -/

namespace SchemaForge.Template

section Output

namespace Output

variable {o : Output}

theorem text_print (h : o.indent = []) (cs : List Char) : (o.print cs).text = o.text ++ cs := by
  unfold print
  split
  · simp_all
  · simp [text, h]

theorem indent_print (o : Output) (cs : List Char) : (o.print cs).indent = o.indent := by
  unfold print
  split <;> rfl

end Output

end Output

namespace Render

variable {α β : Type} {a : α} {b : β} {cs ds : List Char}

/-- At lines that are not indented, the step ends with the value and has printed the text. -/
def Prints (x : Render α) (a : α) (cs : List Char) : Prop :=
  ∀ p, p.output.indent = [] → ∃ q, exec x p = (.ok a, q) ∧
    q.output.indent = [] ∧ q.output.text = p.output.text ++ cs

namespace Prints

theorem pure (a : α) : Prints (pure a) a [] :=
  fun p hp => ⟨p, rfl, hp, (List.append_nil _).symm⟩

theorem bind {x : Render α} {f : α → Render β} (hx : Prints x a cs) (hf : Prints (f a) b ds) :
    Prints (x >>= f) b (cs ++ ds) := by
  intro p hp
  obtain ⟨q, hexec, hq, htext⟩ := hx p hp
  obtain ⟨r, hexec', hr, htext'⟩ := hf q hq
  refine ⟨r, ?_, hr, ?_⟩
  · rw [exec_bind, hexec]
    exact hexec'
  · rw [htext', htext, List.append_assoc]

theorem bind_nil {x : Render α} {f : α → Render β} (hx : Prints x a []) (hf : Prints (f a) b cs) :
    Prints (x >>= f) b cs :=
  bind hx hf

theorem get_bind {f : Progress → Render β} (hf : ∀ p, Prints (f p) b cs) :
    Prints (get >>= f) b cs :=
  fun p hp => hf p p hp

theorem modify {f : Progress → Progress} (h : ∀ p, (f p).output.text = p.output.text)
    (hindent : ∀ p, (f p).output.indent = p.output.indent) : Prints (modify f) () [] :=
  fun p hp => ⟨f p, rfl, (hindent p).trans hp, (h p).trans (List.append_nil _).symm⟩

theorem print (cs : List Char) : Prints (print cs) () cs :=
  fun p hp => ⟨_, rfl, (p.output.indent_print cs).trans hp, Output.text_print hp cs⟩

theorem liftExcept {r : Except RenderError α} (h : r = .ok a) : Prints (liftExcept r) a [] := by
  subst h
  exact pure a

theorem enter (indentsNext : Bool) : Prints (onOutput (·.enter indentsNext)) () [] :=
  modify (fun _ => rfl) fun _ => rfl

theorem leave (before : Output) : Prints (onOutput (·.leave before)) () [] := by
  apply modify
  · intro p
    simp only [Output.leave]
    split <;> rfl
  · intro p
    simp only [Output.leave]
    split <;> rfl

theorem call {x : Render Unit} (indentsNext : Output → Bool) (hx : Prints x () cs) :
    Prints (call indentsNext x) () cs := by
  apply get_bind
  intro p
  apply bind_nil (enter _)
  rw [← List.append_nil cs]
  exact bind hx (leave _)

theorem enterBlock : Prints enterBlock () [] :=
  modify (fun _ => rfl) fun _ => rfl

theorem forM {ι : Type} {items : List ι} {scope : ι → Scope} {f : Scope → Render Unit}
    {text : ι → List Char} (h : ∀ i ∈ items, Prints (f (scope i)) () (text i)) :
    Prints ((items.map scope).forM f) () (items.flatMap text) := by
  induction items with
  | nil => exact pure ()
  | cons i rest ih =>
    rw [List.forall_mem_cons] at h
    exact bind h.1 (ih h.2)

theorem of_eq {x : Render α} (h : Prints x a cs) (heq : cs = ds) : Prints x a ds :=
  heq ▸ h

end Prints

section Nodes

variable {lib : Library} {again : Again} {s : Scope} {path : ValuePath} {v : Json}

theorem prints_eval (h : s.resolve path = .ok (some v)) :
    Prints (eval lib s (.path path)) (some v) [] := by
  rw [eval]
  exact Prints.liftExcept h

theorem prints_evalAll (h : s.resolve path = .ok (some v)) :
    Prints (evalAll lib s [.path path]) [v] [] := by
  rw [evalAll, evalAll]
  exact Prints.bind_nil (prints_eval h) (Prints.bind_nil (Prints.pure []) (Prints.pure [v]))

theorem prints_evalNamed : Prints (evalNamed lib s []) [] [] := by
  rw [evalNamed]
  exact Prints.pure []

theorem prints_text (cs : List Char) : Prints (node lib again s (.text cs)) () cs := by
  rw [node]
  exact Prints.print cs

theorem prints_value (hname : Helper.ofName? path.raw = none)
    (h : s.resolve path = .ok (some v)) :
    Prints (node lib again s (.value (.path path))) () (printed v) := by
  rw [node, printValue, nameOf]
  refine Prints.bind_nil (Prints.pure path.raw) ?_
  rw [hname, if_neg (by simp)]
  exact Prints.bind_nil (prints_eval h) (Prints.print _)

theorem prints_valueHelper {name : String} {h : ValueHelper} {w : Json} (harity : h.arity ≤ 1)
    (happly : ∀ names, (h.apply lib.naming names [v]).1 = .ok w) :
    Prints (value lib h name [v]) w [] := by
  rw [value, if_neg (by simpa using harity)]
  apply Prints.get_bind
  intro p
  exact Prints.bind_nil (Prints.modify (fun _ => rfl) fun _ => rfl)
    (Prints.liftExcept (happly p.names))

theorem prints_evalCall {name : String} {h : ValueHelper} {w : Json}
    (hname : Helper.ofName? name = some (.value h)) (harity : h.arity ≤ 1)
    (hv : s.resolve path = .ok (some v))
    (happly : ∀ names, (h.apply lib.naming names [v]).1 = .ok w) :
    Prints (evalAll lib s [.call name [.path path] []]) [w] [] := by
  have hcall : Prints (eval lib s (.call name [.path path] [])) (some w) [] := by
    rw [eval]
    refine Prints.bind_nil (prints_evalAll hv) (Prints.bind_nil prints_evalNamed ?_)
    rw [callValue, hname, map_eq_pure_bind]
    exact Prints.bind_nil (prints_valueHelper harity happly) (Prints.pure _)
  rw [evalAll, evalAll]
  exact Prints.bind_nil hcall (Prints.bind_nil (Prints.pure []) (Prints.pure [w]))

theorem prints_call {name : String} {h : ValueHelper} {o : Operand} {w : Json}
    (hname : Helper.ofName? name = some (.value h)) (harity : h.arity ≤ 1)
    (hv : Prints (evalAll lib s [o]) [v] [])
    (happly : ∀ names, (h.apply lib.naming names [v]).1 = .ok w) :
    Prints (node lib again s (.call ⟨name, [o], []⟩)) () (printed w) := by
  rw [node, callInline]
  refine Prints.bind_nil hv (Prints.bind_nil prints_evalNamed ?_)
  apply Prints.call
  rw [hname]
  exact Prints.bind_nil (prints_valueHelper harity happly) (Prints.print _)

theorem prints_helper {name : String} {h : ValueHelper} {w : Json}
    (hname : Helper.ofName? name = some (.value h)) (harity : h.arity ≤ 1)
    (hv : s.resolve path = .ok (some v))
    (happly : ∀ names, (h.apply lib.naming names [v]).1 = .ok w) :
    Prints (node lib again s (.call ⟨name, [.path path], []⟩)) () (printed w) :=
  prints_call hname harity (prints_evalAll hv) happly

theorem prints_nodes_nil : Prints (nodes lib again s []) () [] := by
  rw [nodes]
  exact Prints.pure ()

theorem prints_nodes_cons {n : Node} {rest : List Node} {cs ds : List Char}
    (h : Prints (node lib again s n) () cs) (hrest : Prints (nodes lib again s rest) () ds) :
    Prints (nodes lib again s (n :: rest)) () (cs ++ ds) := by
  rw [nodes]
  exact Prints.bind h hrest

theorem prints_single {n : Node} {cs : List Char} (h : Prints (node lib again s n) () cs) :
    Prints (nodes lib again s [n]) () cs := by
  rw [← List.append_nil cs]
  exact prints_nodes_cons h prints_nodes_nil

theorem nodes_append (before after : List Node) : nodes lib again s (before ++ after) =
    (do nodes lib again s before; nodes lib again s after) := by
  induction before with
  | nil =>
    rw [List.nil_append, nodes, pure_bind]
  | cons n rest ih =>
    rw [List.cons_append, nodes, nodes, ih, bind_assoc]

theorem prints_nodes_append {before after : List Node} {cs ds : List Char}
    (h : Prints (nodes lib again s before) () cs)
    (hafter : Prints (nodes lib again s after) () ds) :
    Prints (nodes lib again s (before ++ after)) () (cs ++ ds) := by
  rw [nodes_append]
  exact Prints.bind h hafter

/-- A block that a helper decides about, given what becomes of each of its two sides. -/
theorem prints_block {name : String} {h : BlockHelper} {ownLine : Bool} {body : List Node}
    {inverse : Option (List Node)} (hname : Helper.ofName? name = some (.block h))
    (hchecks : h ≠ .silent) (hv : s.resolve path = .ok (some v))
    (hbody : ∀ scopes, decide s [] [] h v = .body scopes →
      Prints (scopes.forM fun s => do enterBlock; nodes lib again s body) () cs)
    (hinverse : decide s [] [] h v = .inverse → Prints (otherwise lib again s inverse) () cs) :
    Prints (node lib again s (.block ⟨name, [.path path], []⟩ [] ownLine body inverse)) () cs := by
  have hbare : Prints (bare h name [v] []) () [] := by
    cases h with
    | silent => exact absurd rfl hchecks
    | _ => exact Prints.pure ()
  have hdecide : Prints (decideBlock lib s ⟨name, [.path path], []⟩ [] [v] [])
      (decide s [] [] h v) [] := by
    rw [decideBlock, hname]
    exact Prints.bind_nil hbare (Prints.pure _)
  rw [node]
  refine Prints.bind_nil (prints_evalAll hv) (Prints.bind_nil prints_evalNamed ?_)
  apply Prints.call
  refine Prints.bind_nil hdecide ?_
  cases hdecision : decide s [] [] h v with
  | body scopes => exact hbody scopes hdecision
  | inverse => exact hinverse hdecision

theorem prints_bodies {ι : Type} {items : List ι} {scope : ι → Scope} {body : List Node}
    {text : ι → List Char} (h : ∀ i ∈ items, Prints (nodes lib again (scope i) body) () (text i)) :
    Prints ((items.map scope).forM fun s => do enterBlock; nodes lib again s body) ()
      (items.flatMap text) :=
  Prints.forM fun i hi => Prints.bind_nil Prints.enterBlock (h i hi)

theorem decide_each (s : Scope) (v : Json) : decide s [] [] .each v =
    match frames [] v with
    | [] => .inverse
    | fs => .body (fs.map s.push) :=
  rfl

theorem prints_otherwise {body : List Node} {cs : List Char}
    (h : Prints (nodes lib again s body) () cs) :
    Prints (otherwise lib again s (some body)) () cs := by
  rw [otherwise]
  exact Prints.bind_nil Prints.enterBlock h

def itemFrame {ι : Type} (value : ι → Json) (length : Nat) (i : ι × Nat) : Frame :=
  { value := value i.1, facts := position i.2 length }

theorem frames_map {ι : Type} (value : ι → Json) (items : List ι) :
    frames [] (.arr (items.map value)) = items.zipIdx.map (itemFrame value items.length) := by
  simp [frames, itemFrame, List.zipIdx_map, bind, Function.comp_def]

theorem prints_each {ι : Type} {items : List ι} {value : ι → Json} {ownLine : Bool}
    {body : List Node} {text : ι → List Char}
    (hv : s.resolve path = .ok (some (.arr (items.map value))))
    (hbody : ∀ i ∈ items, ∀ facts,
      Prints (nodes lib again (s.push { value := value i, facts }) body) () (text i)) :
    Prints (node lib again s (.block ⟨"each", [.path path], []⟩ [] ownLine body none)) ()
      (items.flatMap text) := by
  have hname : Helper.ofName? "each" = some (.block .each) := rfl
  have htext : items.flatMap text = items.zipIdx.flatMap fun i => text i.1 := by
    calc items.flatMap text = (items.zipIdx.map Prod.fst).flatMap text := by
          rw [List.zipIdx_map_fst]
      _ = _ := List.flatMap_map ..
  have hprints : Prints ((items.zipIdx.map fun i => s.push (itemFrame value items.length i)).forM fun s => do
      enterBlock; nodes lib again s body) () (items.flatMap text) := by
    rw [htext]
    exact prints_bodies fun i hi => hbody i.1 (List.fst_mem_of_mem_zipIdx hi) _
  refine prints_block hname (by simp) hv (fun scopes hdecision => ?_) fun hdecision => ?_
  · rw [decide_each, frames_map] at hdecision
    split at hdecision
    · cases hdecision
    · cases hdecision
      rwa [List.map_map]
  · rw [decide_each, frames_map] at hdecision
    split at hdecision
    · rename_i hnone
      rw [htext, List.map_eq_nil_iff.mp hnone]
      exact Prints.pure ()
    · cases hdecision

theorem prints_cond {name : String} {wanted ownLine : Bool} {body : List Node}
    {inverse : Option (List Node)} {cs : List Char}
    (hname : Helper.ofName? name = some (.block (.cond wanted)))
    (hv : s.resolve path = .ok (some v))
    (hbody : isTruthy false v = wanted → Prints (nodes lib again s body) () cs)
    (hinverse : isTruthy false v ≠ wanted → Prints (otherwise lib again s inverse) () cs) :
    Prints (node lib again s (.block ⟨name, [.path path], []⟩ [] ownLine body inverse)) () cs := by
  have hdecide : decide s [] [] (.cond wanted) v =
      if isTruthy false v = wanted then .body [s] else .inverse := rfl
  refine prints_block hname (by simp) hv (fun scopes hdecision => ?_) fun hdecision => ?_
  · rw [hdecide] at hdecision
    split at hdecision
    · rename_i hwanted
      cases hdecision
      have hone : Prints (([()].map fun _ => s).forM fun s => do enterBlock; nodes lib again s body)
          () ([()].flatMap fun _ => cs) := prints_bodies fun _ _ => hbody hwanted
      simpa using hone
    · cases hdecision
  · rw [hdecide] at hdecision
    split at hdecision
    · cases hdecision
    · exact hinverse ‹_›

theorem prints_if {b : Bool} {ownLine : Bool} {body : List Node} {inverse : Option (List Node)}
    {cs : List Char} (hv : s.resolve path = .ok (some (.bool b)))
    (hbody : b = true → Prints (nodes lib again s body) () cs)
    (hinverse : b = false → Prints (otherwise lib again s inverse) () cs) :
    Prints (node lib again s (.block ⟨"if", [.path path], []⟩ [] ownLine body inverse)) () cs :=
  have hname : Helper.ofName? "if" = some (.block (.cond true)) := rfl
  prints_cond hname hv hbody fun h => hinverse (Bool.eq_false_iff.mpr h)

/-- A block for a value that does not count as true; for others there is nothing. -/
theorem prints_unless {ownLine : Bool} {body : List Node} {cs : List Char}
    (hv : s.resolve path = .ok (some v))
    (hbody : isTruthy false v = false → Prints (nodes lib again s body) () cs) :
    Prints (node lib again s (.block ⟨"unless", [.path path], []⟩ [] ownLine body none)) ()
      (if isTruthy false v then [] else cs) := by
  have hname : Helper.ofName? "unless" = some (.block (.cond false)) := rfl
  refine prints_cond hname hv (fun h => ?_) fun h => ?_
  · rw [h, if_neg Bool.false_ne_true]
    exact hbody h
  · rw [Bool.ne_false_iff.mp h, if_pos rfl, otherwise]
    exact Prints.pure ()

end Nodes

end Render

section Paths

variable {s : Scope}

def Scope.Bare (s : Scope) : Prop :=
  ∀ f ∈ s.frames, f.params = []

theorem Scope.bare_ofData (data : Json) : (Scope.ofData data).Bare := by
  simp [Bare, frames, ofData]

theorem Scope.Bare.push (h : s.Bare) (v : Json) (facts : List (String × Json)) :
    (s.push { value := v, facts }).Bare := by
  simpa [Bare, frames, Scope.push] using h

theorem Scope.Bare.resolve (h : s.Bare) (raw : String) (names : List String) :
    s.resolve ⟨raw, .here 0, names⟩ = navigate names s.inner.value := by
  have hnone (name : String) : s.param? name = none := by
    rw [param?, List.findSome?_eq_none_iff]
    intro f hf
    rw [h f hf]
    rfl
  have hfirst : names.head?.bind s.param? = none := by
    cases names with
    | nil => rfl
    | cons name rest => exact hnone name
  rw [Scope.resolve]
  dsimp only
  rw [hfirst]
  rfl

end Paths

theorem render_of_prints {lib : Library} {body : List Node} {data : Json} {cs : List Char}
    (h : ∀ again, Render.Prints (Render.nodes lib again (Scope.ofData data.sorted) body) () cs)
    (names : UniqueNames) (id : String) :
    ∃ names', render lib names id body data = (.ok (), cs, names') := by
  have htemplate : Render.Prints
      (Render.template lib partLimit (Scope.ofData data.sorted) (some id) body) () cs :=
    Render.Prints.bind_nil (Render.Prints.modify (fun _ => rfl) fun _ => rfl) (h _)
  obtain ⟨q, hexec, -, htext⟩ := htemplate { names } rfl
  refine ⟨q.names, ?_⟩
  unfold Render.exec at hexec
  rw [render, hexec]
  dsimp only
  rw [htext]
  rfl

end SchemaForge.Template
