import SchemaForge.Template.Render

/-! What rendering takes from other templates. A template gets at others only by the names that it
refers to parts by. More templates in a library make a difference only where a reference would find
no part without them: it fails then, or its own body stands in. -/

namespace SchemaForge.Template

namespace Render

variable {α β : Type}

def exec (x : Render α) (p : Progress) : Except RenderError α × Progress :=
  x.run.run p

/-- Some progress lets the step end with the value. -/
def Yields (x : Render α) (a : α) : Prop :=
  ∃ p, (exec x p).1 = .ok a

theorem exec_bind (x : Render α) (f : α → Render β) (p : Progress) :
    exec (x >>= f) p =
      match exec x p with
      | (.ok a, q) => exec (f a) q
      | (.error e, q) => (.error e, q) := by
  have hbind : exec (x >>= f) p = (ExceptT.bindCont f (exec x p).1).run (exec x p).2 := rfl
  rw [hbind]
  generalize exec x p = r
  obtain ⟨_ | a, q⟩ := r
  · rfl
  · rfl

end Render

section Asks

/-- Every name of a part that the operand may stand for, wherever it is read, satisfies `A`. -/
def Operand.NamesOnly (naming : Naming) (A : String → Prop) (o : Operand) : Prop :=
  ∀ (lib : Library) (s : Scope) (name : String),
    lib.naming = naming → Render.Yields (Render.nameOf lib s o) name → A name

mutual

/-- All parts that a template refers to, with a body for where there is none, have names that
satisfy `A`. -/
def Node.Asks (naming : Naming) (A : String → Prop) : Node → Prop
  | .text _ => True
  | .value _ => True
  | .call _ => True
  | .block _ _ _ body inverse => AllAsk naming A body ∧ BodyAsks naming A inverse
  | .part c body => (body.isSome → c.name.NamesOnly naming A) ∧ BodyAsks naming A body
  | .directive _ body => BodyAsks naming A body

def AllAsk (naming : Naming) (A : String → Prop) : List Node → Prop
  | [] => True
  | n :: rest => n.Asks naming A ∧ AllAsk naming A rest

def BodyAsks (naming : Naming) (A : String → Prop) : Option (List Node) → Prop
  | none => True
  | some body => AllAsk naming A body

end

mutual

def Node.isStrict : Node → Bool
  | .text _ => true
  | .value _ => true
  | .call _ => true
  | .block _ _ _ body inverse => allStrict body && bodyStrict inverse
  | .part _ body => body.isNone
  | .directive _ body => bodyStrict body

def allStrict : List Node → Bool
  | [] => true
  | n :: rest => n.isStrict && allStrict rest

def bodyStrict : Option (List Node) → Bool
  | none => true
  | some body => allStrict body

end

variable {naming : Naming} {A : String → Prop}

mutual

theorem Node.asks_of_isStrict : (n : Node) → n.isStrict = true → n.Asks naming A
  | .text _, _ => trivial
  | .value _, _ => trivial
  | .call _, _ => trivial
  | .block _ _ _ body inverse, h => by
    obtain ⟨hbody, hinverse⟩ := Bool.and_eq_true_iff.mp h
    exact ⟨allAsk_of_allStrict body hbody, bodyAsks_of_bodyStrict inverse hinverse⟩
  | .part _ none, _ => ⟨nofun, trivial⟩
  | .directive _ body, h => bodyAsks_of_bodyStrict body h

theorem allAsk_of_allStrict : (body : List Node) → allStrict body = true → AllAsk naming A body
  | [], _ => trivial
  | n :: rest, h => by
    obtain ⟨hfirst, hrest⟩ := Bool.and_eq_true_iff.mp h
    exact ⟨n.asks_of_isStrict hfirst, allAsk_of_allStrict rest hrest⟩

theorem bodyAsks_of_bodyStrict : (body : Option (List Node)) → bodyStrict body = true →
    BodyAsks naming A body
  | none, _ => trivial
  | some body, h => allAsk_of_allStrict body h

end

end Asks

/-- A library with the same helpers for names, and with more templates under names that do not
satisfy `A`. -/
structure Library.Extends (A : String → Prop) (lib lib' : Library) : Prop where
  naming : lib'.naming = lib.naming
  lookup : ∀ name, lib'.templates.lookup name = lib.templates.lookup name ∨
    ¬ A name ∧ lib.templates.lookup name = none
  asks : ∀ name nodes, lib.templates.lookup name = some nodes → AllAsk lib.naming A nodes

namespace Render

variable {naming : Naming} {A : String → Prop} {α β : Type}

structure Confined (naming : Naming) (A : String → Prop) (p : Progress) : Prop where
  parts : ∀ name nodes, p.parts.lookup name = some nodes → AllAsk naming A nodes
  bodies : ∀ nodes ∈ p.bodies, AllAsk naming A nodes

def Misses (A : String → Prop) (r : Except RenderError α) : Prop :=
  ∃ name, ¬ A name ∧ r = .error (.unknownPart name)

/-- Unless the first step misses a part, both steps make the same of progress whose parts are
confined, and confine those after. -/
def Agree (naming : Naming) (A : String → Prop) (x y : Render α) : Prop :=
  ∀ p, Confined naming A p →
    exec x p = exec y p ∧ Confined naming A (exec x p).2 ∨ Misses A (exec x p).1

namespace Agree

theorem pure (a : α) : Agree naming A (pure a) (pure a) :=
  fun _ h => Or.inl ⟨rfl, h⟩

theorem throw (e : RenderError) : Agree naming A (throw e : Render α) (throw e) :=
  fun _ h => Or.inl ⟨rfl, h⟩

theorem missing {name : String} (h : ¬ A name) (y : Render α) :
    Agree naming A (MonadExcept.throw (.unknownPart name)) y :=
  fun _ _ => Or.inr ⟨name, h, rfl⟩

theorem modify {f : Progress → Progress} (h : ∀ p, Confined naming A p → Confined naming A (f p)) :
    Agree naming A (modify f) (modify f) :=
  fun p hp => Or.inl ⟨rfl, h p hp⟩

theorem set {q : Progress} (hq : Confined naming A q) : Agree naming A (set q) (set q) :=
  fun _ _ => Or.inl ⟨rfl, hq⟩

theorem bind {x x' : Render α} {f f' : α → Render β} (hx : Agree naming A x x')
    (hf : ∀ a, Yields x a → Agree naming A (f a) (f' a)) :
    Agree naming A (x >>= f) (x' >>= f') := by
  intro p hp
  have hyields : ∀ a, (exec x p).1 = .ok a → Yields x a := fun a ha => ⟨p, ha⟩
  rw [exec_bind, exec_bind]
  rcases hx p hp with ⟨heq, hconfined⟩ | ⟨name, hname, hmissing⟩
  · rw [← heq]
    generalize exec x p = r at hconfined hyields ⊢
    obtain ⟨_ | a, q⟩ := r
    · exact Or.inl ⟨rfl, hconfined⟩
    · exact hf a (hyields a rfl) q hconfined
  · right
    generalize exec x p = r at hmissing ⊢
    obtain ⟨result, q⟩ := r
    cases hmissing
    exact ⟨name, hname, rfl⟩

theorem get_bind {f f' : Progress → Render β}
    (hf : ∀ p, Confined naming A p → Agree naming A (f p) (f' p)) :
    Agree naming A (get >>= f) (get >>= f') :=
  fun p hp => hf p hp p hp

theorem liftExcept (r : Except RenderError α) :
    Agree naming A (liftExcept r) (liftExcept r) := by
  cases r with
  | ok a => exact pure a
  | error e => exact throw e

theorem onOutput (f : Output → Output) : Agree naming A (onOutput f) (onOutput f) :=
  modify fun _ hp => ⟨hp.parts, hp.bodies⟩

theorem print (cs : List Char) : Agree naming A (print cs) (print cs) :=
  onOutput _

theorem call {x x' : Render Unit} (indentsNext : Output → Bool) (hx : Agree naming A x x') :
    Agree naming A (call indentsNext x) (call indentsNext x') := by
  apply get_bind
  intro p _
  apply bind (onOutput _)
  intro _ _
  apply bind hx
  intro _ _
  exact onOutput _

theorem forM {scopes : List Scope} {f f' : Scope → Render Unit}
    (hf : ∀ s, Agree naming A (f s) (f' s)) :
    Agree naming A (scopes.forM f) (scopes.forM f') := by
  induction scopes with
  | nil => exact pure ()
  | cons s rest ih =>
    exact bind (hf s) fun _ _ => ih

end Agree

section Steps

variable {lib lib' : Library}

theorem agree_value (hlib : lib.Extends A lib') (h : ValueHelper) (name : String)
    (args : List Json) :
    Agree naming A (value lib h name args) (value lib' h name args) := by
  unfold value
  rw [hlib.naming]
  split
  · exact Agree.throw _
  · apply Agree.get_bind
    intro p _
    refine Agree.bind (Agree.modify ?_) fun _ _ => Agree.liftExcept _
    intro q hq
    exact ⟨hq.parts, hq.bodies⟩

theorem agree_bare (h : BlockHelper) (name : String) (args : List Json)
    (named : List (String × Json)) :
    Agree naming A (bare h name args named) (bare h name args named) := by
  unfold bare
  split
  · exact Agree.pure ()
  · exact Agree.liftExcept _
  · split
    · exact Agree.throw _
    · exact Agree.pure ()

theorem agree_callValue (hlib : lib.Extends A lib') (name : String) (args : List Json)
    (named : List (String × Json)) :
    Agree naming A (callValue lib name args named) (callValue lib' name args named) := by
  unfold callValue
  split
  · exact Agree.throw _
  · exact agree_value hlib _ _ _
  · exact Agree.bind (agree_bare _ _ _ _) fun _ _ => Agree.pure _

mutual

theorem agree_eval (hlib : lib.Extends A lib') (s : Scope) :
    (o : Operand) → Agree naming A (eval lib s o) (eval lib' s o)
  | .literal v => Agree.pure _
  | .path p => Agree.liftExcept _
  | .call helper args named => by
    unfold eval
    apply Agree.bind (agree_evalAll hlib s args)
    intro _ _
    apply Agree.bind (agree_evalNamed hlib s named)
    intro _ _
    exact Agree.bind (agree_callValue hlib _ _ _) fun _ _ => Agree.pure _

theorem agree_evalAll (hlib : lib.Extends A lib') (s : Scope) :
    (args : List Operand) → Agree naming A (evalAll lib s args) (evalAll lib' s args)
  | [] => Agree.pure _
  | o :: rest => by
    unfold evalAll
    apply Agree.bind (agree_eval hlib s o)
    intro _ _
    exact Agree.bind (agree_evalAll hlib s rest) fun _ _ => Agree.pure _

theorem agree_evalNamed (hlib : lib.Extends A lib') (s : Scope) :
    (named : List (String × Operand)) →
      Agree naming A (evalNamed lib s named) (evalNamed lib' s named)
  | [] => Agree.pure _
  | (name, o) :: rest => by
    unfold evalNamed
    apply Agree.bind (agree_eval hlib s o)
    intro _ _
    exact Agree.bind (agree_evalNamed hlib s rest) fun _ _ => Agree.pure _

end

theorem agree_nameOf (hlib : lib.Extends A lib') (s : Scope) (o : Operand) :
    Agree naming A (nameOf lib s o) (nameOf lib' s o) := by
  unfold nameOf
  split
  · exact Agree.pure _
  · exact Agree.bind (agree_eval hlib s _) fun _ _ => Agree.pure _

theorem agree_callInline (hlib : lib.Extends A lib') (s : Scope) (c : Call) :
    Agree naming A (callInline lib s c) (callInline lib' s c) := by
  unfold callInline
  apply Agree.bind (agree_evalAll hlib s _)
  intro args _
  apply Agree.bind (agree_evalNamed hlib s _)
  intro named _
  apply Agree.call
  split
  · exact Agree.throw _
  · exact Agree.bind (agree_value hlib _ _ _) fun _ _ => Agree.print _
  · exact agree_bare _ _ _ _

theorem agree_printValue (hlib : lib.Extends A lib') (s : Scope) (o : Operand) :
    Agree naming A (printValue lib s o) (printValue lib' s o) := by
  unfold printValue
  apply Agree.bind (agree_nameOf hlib s o)
  intro name _
  split
  · exact agree_callInline hlib s _
  · apply Agree.bind (agree_eval hlib s o)
    intro v _
    split
    · exact Agree.pure ()
    · exact Agree.print _

theorem agree_decideBlock (hlib : lib.Extends A lib') (s : Scope) (c : Call)
    (params : List String) (args : List Json) (named : List (String × Json)) :
    Agree naming A (decideBlock lib s c params args named)
      (decideBlock lib' s c params args named) := by
  unfold decideBlock
  split
  · exact Agree.throw _
  · apply Agree.bind (agree_value hlib _ _ _)
    intro v _
    split
    · exact Agree.pure _
    · exact Agree.bind (Agree.print _) fun _ _ => Agree.pure _
  · exact Agree.bind (agree_bare _ _ _ _) fun _ _ => Agree.pure _

theorem agree_directive (hlib : lib.Extends A lib') (s : Scope) (c : Call)
    {body : Option (List Node)} (hbody : BodyAsks naming A body) :
    Agree naming A (directive lib s c body) (directive lib' s c body) := by
  unfold directive
  apply Agree.bind (agree_evalAll hlib s _)
  intro args _
  apply Agree.bind (agree_evalNamed hlib s _)
  intro named _
  split
  · exact Agree.throw _
  · split
    · exact Agree.throw _
    · apply Agree.modify
      intro p hp
      refine ⟨?_, hp.bodies⟩
      intro other nodes hlookup
      dsimp only at hlookup
      rw [List.lookup_cons] at hlookup
      split at hlookup
      · cases hlookup
        exact hbody
      · exact hp.parts other nodes hlookup
    · exact Agree.throw _
    · exact Agree.throw _

theorem agree_directives (hlib : lib.Extends A lib') (s : Scope) {body : List Node}
    (hbody : AllAsk naming A body) :
    Agree naming A (directives lib s body) (directives lib' s body) := by
  induction body with
  | nil => exact Agree.pure ()
  | cons n rest ih =>
    obtain ⟨hfirst, hrest⟩ := hbody
    cases n with
    | directive c inner =>
      exact Agree.bind (agree_directive hlib s c hfirst) fun _ _ => ih hrest
    | text _ => exact ih hrest
    | value _ => exact ih hrest
    | call _ => exact ih hrest
    | block _ _ _ _ _ => exact ih hrest
    | part _ _ => exact ih hrest

end Steps

section Parts

variable {lib lib' : Library} {again again' : Again}

/-- Another template makes a difference only where there is no part without it. -/
theorem findPart_cases (hlib : lib.Extends A lib') (p : Progress) (name : String)
    (body : Option (List Node)) :
    findPart lib' p name body = findPart lib p name body ∨
      ¬ A name ∧ (findPart lib p name body = none ∨ body.isSome) := by
  rcases hlib.lookup name with hsame | ⟨hname, hnone⟩
  · left
    unfold findPart
    rw [hsame]
  · unfold findPart
    dsimp only
    rw [hnone]
    cases (if name = ownBody then p.bodies[p.depth]? else p.parts.lookup name) with
    | some nodes => exact Or.inl rfl
    | none =>
      cases body with
      | none => exact Or.inr ⟨hname, Or.inl rfl⟩
      | some nodes => exact Or.inr ⟨hname, Or.inr rfl⟩

theorem allAsk_of_findPart (hlib : lib.Extends A lib') {p : Progress} {name : String}
    {body : Option (List Node)} {id : Option String} {nodes : List Node}
    (hbody : BodyAsks lib.naming A body) (hp : Confined lib.naming A p)
    (hfound : findPart lib p name body = some (id, nodes)) : AllAsk lib.naming A nodes := by
  unfold findPart at hfound
  dsimp only at hfound
  split at hfound
  · rename_i found hdefined
    cases hfound
    split at hdefined
    · exact hp.bodies _ (List.mem_of_getElem? hdefined)
    · exact hp.parts name _ hdefined
  · rename_i htemplate
    cases hfound
    exact hlib.asks name _ htemplate
  · cases hfound
    exact hbody
  · cases hfound

def AgainAlike (naming : Naming) (A : String → Prop) (again again' : Again) : Prop :=
  ∀ s id body, AllAsk naming A body → Agree naming A (again s id body) (again' s id body)

theorem Confined.withBody {p : Progress} (hp : Confined naming A p) {body : Option (List Node)}
    (hbody : BodyAsks naming A body) : ∀ nodes ∈ body.toList ++ p.bodies, AllAsk naming A nodes := by
  intro nodes hmem
  rcases List.mem_append.mp hmem with hown | houter
  · cases body with
    | none => cases hown
    | some own =>
      cases List.mem_singleton.mp hown
      exact hbody
  · exact hp.bodies nodes houter

theorem agree_expand (hlib : lib.Extends A lib') (hagain : AgainAlike lib.naming A again again')
    (s : Scope) (c : PartCall) {name : String} (value : Json) {body : Option (List Node)}
    (hname : body.isSome → A name) (hbody : BodyAsks lib.naming A body) :
    Agree lib.naming A (expand lib again s c name value body)
      (expand lib' again' s c name value body) := by
  unfold expand
  have hinner : AllAsk lib.naming A (body.getD []) := by
    cases body with
    | none => trivial
    | some nodes => exact hbody
  apply Agree.bind (agree_directives hlib s hinner)
  intro _ _
  apply Agree.get_bind
  intro p hp
  split
  · exact Agree.throw _
  · -- A part that only the larger library has is missed, or the body would stand in for it.
    rcases findPart_cases hlib p name body with hsame | ⟨hforeign, hnone | hsome⟩
    · rw [hsame]
      split
      · exact Agree.throw _
      · rename_i id nodes hfound
        have hnodes := allAsk_of_findPart hlib hbody hp hfound
        refine Agree.bind (Agree.set ⟨hp.parts, hp.withBody hbody⟩) fun _ _ => ?_
        refine Agree.bind (hagain _ _ _ hnodes) fun _ _ => ?_
        exact Agree.modify fun _ hq => ⟨hq.parts, hp.bodies⟩
    · rw [hnone]
      exact Agree.missing hforeign _
    · exact absurd (hname hsome) hforeign

theorem agree_part (hlib : lib.Extends A lib') (hagain : AgainAlike lib.naming A again again')
    (s : Scope) (c : PartCall) {body : Option (List Node)} (hname : body.isSome → c.name.NamesOnly lib.naming A)
    (hbody : BodyAsks lib.naming A body) :
    Agree lib.naming A (part lib again s c body) (part lib' again' s c body) := by
  unfold part
  apply Agree.bind (agree_nameOf hlib s c.name)
  intro name hyields
  apply Agree.bind (agree_evalAll hlib s _)
  intro args _
  apply Agree.bind (agree_evalNamed hlib s _)
  intro named _
  apply Agree.call
  exact agree_expand hlib hagain s c _ (fun hsome => hname hsome lib s name rfl hyields) hbody

theorem agree_enterBlock : Agree naming A enterBlock enterBlock :=
  Agree.modify fun _ hp => ⟨hp.parts, hp.bodies⟩

mutual

theorem agree_node (hlib : lib.Extends A lib')
    (hagain : AgainAlike lib.naming A again again') (s : Scope) :
    (n : Node) → n.Asks lib.naming A →
      Agree lib.naming A (node lib again s n) (node lib' again' s n)
  | .text cs, _ => Agree.print cs
  | .value o, _ => agree_printValue hlib s o
  | .call c, _ => agree_callInline hlib s c
  | .part c body, h => agree_part hlib hagain s c h.1 h.2
  | .directive c body, h => agree_directive hlib s c h
  | .block c params ownLine body inverse, h => by
    unfold node
    apply Agree.bind (agree_evalAll hlib s _)
    intro args _
    apply Agree.bind (agree_evalNamed hlib s _)
    intro named _
    apply Agree.call
    apply Agree.bind (agree_decideBlock hlib s c params args named)
    intro decision _
    cases decision with
    | body scopes =>
      apply Agree.forM
      intro inner
      exact Agree.bind agree_enterBlock fun _ _ => agree_nodes hlib hagain inner body h.1
    | inverse => exact agree_otherwise hlib hagain s inverse h.2

theorem agree_nodes (hlib : lib.Extends A lib')
    (hagain : AgainAlike lib.naming A again again') (s : Scope) :
    (body : List Node) → AllAsk lib.naming A body →
      Agree lib.naming A (nodes lib again s body) (nodes lib' again' s body)
  | [], _ => Agree.pure ()
  | n :: rest, h => by
    unfold nodes
    exact Agree.bind (agree_node hlib hagain s n h.1) fun _ _ => agree_nodes hlib hagain s rest h.2

theorem agree_otherwise (hlib : lib.Extends A lib')
    (hagain : AgainAlike lib.naming A again again') (s : Scope) :
    (body : Option (List Node)) → BodyAsks lib.naming A body →
      Agree lib.naming A (otherwise lib again s body) (otherwise lib' again' s body)
  | none, _ => Agree.pure ()
  | some body, h => by
    unfold otherwise
    exact Agree.bind agree_enterBlock fun _ _ => agree_nodes hlib hagain s body h

end

end Parts

theorem againAlike_template {lib lib' : Library} (hlib : lib.Extends A lib') (depth : Nat) :
    AgainAlike lib.naming A (template lib depth) (template lib' depth) := by
  induction depth with
  | zero => exact fun _ _ _ _ => Agree.throw _
  | succ depth ih =>
    intro s id body hbody
    unfold template
    refine Agree.bind (Agree.modify ?_) fun _ _ => agree_nodes hlib ih s body hbody
    intro p hp
    exact ⟨hp.parts, hp.bodies⟩

end Render

/-- More templates make no difference to a template that, without them, misses no part. -/
theorem render_of_extends {A : String → Prop} {lib lib' : Library} (hlib : lib.Extends A lib')
    {body : List Node} (hbody : AllAsk lib.naming A body) (names : UniqueNames) (id : String)
    (data : Json) :
    render lib' names id body data = render lib names id body data ∨
      Render.Misses A (render lib names id body data).1 := by
  have hagree := Render.againAlike_template hlib partLimit (Scope.ofData data.sorted) (some id) body
    hbody { names } ⟨nofun, nofun⟩
  unfold Render.exec at hagree
  unfold render
  dsimp only
  rcases hagree with ⟨hsame, -⟩ | hmisses
  · rw [hsame]
    exact Or.inl rfl
  · exact Or.inr hmisses

end SchemaForge.Template
