import SchemaForge.Template.Helper
import SchemaForge.Template.Output

/-! Rendering a template with data. What has been printed before a failure stays printed, and the
unique names given out stay given out. -/

namespace SchemaForge.Template

/-- What a template may use: the helpers for names, and other templates by their ids. -/
structure Library where
  naming : Naming
  templates : List (String × List Node)

structure Progress where
  names : UniqueNames
  output : Output := {}
  /-- The template that is being rendered; none inside a block of it. -/
  template : Option String := none
  /-- The parts that templates have defined, the latest first. -/
  parts : List (String × List Node) := []
  /-- The bodies of the references that are being rendered, the innermost first. -/
  bodies : List (List Node) := []
  /-- How many of these bodies are being rendered themselves. -/
  depth : Nat := 0

abbrev Render := ExceptT RenderError (StateM Progress)

namespace Render

def onOutput (f : Output → Output) : Render Unit :=
  modify fun p => { p with output := f p.output }

def print (cs : List Char) : Render Unit :=
  onOutput (·.print cs)

def liftExcept : Except RenderError α → Render α
  | .ok v => pure v
  | .error e => throw e

/-- A call whose first text is indented as `indentsNext` tells of the output before. -/
def call (indentsNext : Output → Bool) (action : Render Unit) : Render Unit := do
  let before := (← get).output
  onOutput (·.enter (indentsNext before))
  action
  onOutput (·.leave before)

section Values

def value (lib : Library) (h : ValueHelper) (name : String) (args : List Json) : Render Json := do
  if args.length < h.arity then throw (.missingOperand name)
  else
    let (result, names) := h.apply lib.naming (← get).names args
    modify fun p => { p with names }
    liftExcept result

/-- A block helper outside a block prints nothing, but still checks its operands. -/
def bare (h : BlockHelper) (name : String) (args : List Json) (named : List (String × Json)) :
    Render Unit :=
  match h with
  | .plain => pure ()
  | .silent => liftExcept (checkLevel named)
  | _ => if args.isEmpty then throw (.missingOperand name) else pure ()

def callValue (lib : Library) (name : String) (args : List Json) (named : List (String × Json)) :
    Render Json := do
  match Helper.ofName? name with
  | none => throw (.unknownHelper name)
  | some (.value h) => value lib h name args
  | some (.block h) =>
    bare h name args named
    pure (.str "")

mutual

def eval (lib : Library) (s : Scope) : Operand → Render (Option Json)
  | .literal v => pure (some v)
  | .path p => liftExcept (s.resolve p)
  | .call helper args named => do
    let args ← evalAll lib s args
    let named ← evalNamed lib s named
    some <$> callValue lib helper args named

def evalAll (lib : Library) (s : Scope) : List Operand → Render (List Json)
  | [] => pure []
  | o :: rest => do
    let v ← eval lib s o
    let vs ← evalAll lib s rest
    pure (v.getD .null :: vs)

def evalNamed (lib : Library) (s : Scope) : List (String × Operand) → Render (List (String × Json))
  | [] => pure []
  | (name, o) :: rest => do
    let v ← eval lib s o
    let vs ← evalNamed lib s rest
    pure ((name, v.getD .null) :: vs)

end

/-- The name that an operand stands for: a path as it is written, or the text of a value. -/
def nameOf (lib : Library) (s : Scope) : Operand → Render String
  | .path p => pure p.raw
  | o => do
    let v ← eval lib s o
    pure (String.ofList (printed (v.getD .null)))

end Values

section Inline

def callInline (lib : Library) (s : Scope) (c : Call) : Render Unit := do
  let args ← evalAll lib s c.args
  let named ← evalNamed lib s c.named
  call (·.indentsNext) do
    match Helper.ofName? c.helper with
    | none => throw (.unknownHelper c.helper)
    | some (.value h) => print (printed (← value lib h c.helper args))
    | some (.block h) => bare h c.helper args named

def printValue (lib : Library) (s : Scope) (o : Operand) : Render Unit := do
  let name ← nameOf lib s o
  if (Helper.ofName? name).isSome then callInline lib s ⟨name, [], []⟩
  else
    match ← eval lib s o with
    | none => pure ()
    | some v => print (printed v)

end Inline

section Blocks

/-- The names of a block's parameters with what they stand for; of two equal names the second
counts. -/
def bind (params : List String) (value key : Json) : List (String × Json) :=
  match params with
  | [v] => [(v, value)]
  | v :: k :: _ => [(k, key), (v, value)]
  | [] => []

def position (index count : Nat) : List (String × Json) := [
  ("first", .bool (index == 0)),
  ("last", .bool (index + 1 == count)),
  ("index", .int index)]

def frames (params : List String) : Json → List Frame
  | .arr items =>
    items.zipIdx.map fun (v, i) => {
      value := v
      params := bind params v (.int i)
      facts := position i items.length }
  | .obj members =>
    members.zipIdx.map fun ((k, v), i) => {
      value := v
      params := bind params v (.str k)
      facts := ("key", .str k) :: position i members.length }
  | _ => []

def zeroCounts (named : List (String × Json)) : Bool :=
  match named.lookup "includeZero" with
  | some (.bool b) => b
  | _ => false

/-- What a helper decides about a block: the scopes in which the body is rendered one after the
other, or that the inverse is rendered. -/
inductive Decision where
  | body (scopes : List Scope)
  | inverse

def decide (s : Scope) (params : List String) (named : List (String × Json)) :
    BlockHelper → Json → Decision
  | .cond wanted, v => if isTruthy (zeroCounts named) v = wanted then .body [s] else .inverse
  | .each, v =>
    match frames params v with
    | [] => .inverse
    | fs => .body (fs.map s.push)
  | .scoped, v =>
    if isTruthy false v then
      let bound := match params with
        | [name] => [(name, v)]
        | _ => []
      .body [s.push { value := v, params := bound }]
    else .inverse
  | .plain, _ => .body [s]
  | .silent, _ => .body []

def decideBlock (lib : Library) (s : Scope) (c : Call) (params : List String) (args : List Json)
    (named : List (String × Json)) : Render Decision := do
  match Helper.ofName? c.helper with
  | none => throw (.unknownHelper c.helper)
  | some (.value h) =>
    let v ← value lib h c.helper args
    if h.isTest then pure (if isTruthy false v then .body [s] else .inverse)
    else
      print (printed v)
      pure (.body [])
  | some (.block h) =>
    bare h c.helper args named
    pure (decide s params named h (args.head?.getD .null))

end Blocks

section Parts

/-- The name under which a part finds the body of the reference to it. -/
def ownBody : String := "@partial-block"

/-- The part that a name stands for, with the id of a template: the body of a reference, a part
that was defined, a template, or the body of this reference. -/
def findPart (lib : Library) (p : Progress) (name : String) (body : Option (List Node)) :
    Option (Option String × List Node) :=
  let defined := if name = ownBody then p.bodies[p.depth]? else p.parts.lookup name
  match defined, lib.templates.lookup name, body with
  | some nodes, _, _ => some (none, nodes)
  | none, some nodes, _ => some (some name, nodes)
  | none, none, some nodes => some (none, nodes)
  | none, none, none => none

def merged (base : Json) (named : List (String × Json)) : Json :=
  if named.isEmpty then base
  else
    let members := match base with
      | .obj members => members
      | _ => []
    .obj (named.foldl (fun ms (k, v) => Json.insertSorted k v ms) members)

def directive (lib : Library) (s : Scope) (c : Call) (body : Option (List Node)) : Render Unit := do
  let args ← evalAll lib s c.args
  let _ ← evalNamed lib s c.named
  if c.helper ≠ "inline" then throw (.unknownDirective c.helper)
  else
    match args.head?, body with
    | none, _ => throw (.missingOperand c.helper)
    | some (.str name), some nodes => modify fun p => { p with parts := (name, nodes) :: p.parts }
    | some (.str _), none => throw (.missingBody c.helper)
    | some _, _ => throw (.notText c.helper)

def directives (lib : Library) (s : Scope) : List Node → Render Unit
  | [] => pure ()
  | .directive c body :: rest => do
    directive lib s c body
    directives lib s rest
  | _ :: rest => directives lib s rest

/-- How a part is rendered: in a scope, as a template with an id or as a piece of one. -/
abbrev Again := Scope → Option String → List Node → Render Unit

def expand (lib : Library) (again : Again) (s : Scope) (c : PartCall) (name : String)
    (value : Json) (body : Option (List Node)) : Render Unit := do
  directives lib s (body.getD [])
  let p ← get
  if p.template = some name then throw (.circularPart name)
  else
    match findPart lib p name body with
    | none => throw (.unknownPart name)
    | some (id, nodes) =>
      set { p with
        output := { p.output with indent := p.output.indent ++ c.indent }
        bodies := body.toList ++ p.bodies
        depth := if name = ownBody then p.depth + 1 else p.depth - 1 }
      again (s.alone value) id nodes
      modify fun q => { q with
        output := { q.output with indent := p.output.indent }
        bodies := p.bodies
        depth := p.depth
        template := p.template }

def part (lib : Library) (again : Again) (s : Scope) (c : PartCall) (body : Option (List Node)) :
    Render Unit := do
  let name ← nameOf lib s c.name
  let args ← evalAll lib s c.args
  let named ← evalNamed lib s c.named
  call (fun o => c.ownLine && (o.endsLine || !c.indent.isEmpty))
    (expand lib again s c name (merged (args.head?.getD s.inner.value) named) body)

end Parts

def enterBlock : Render Unit :=
  modify fun p => { p with template := none }

mutual

def node (lib : Library) (again : Again) (s : Scope) : Node → Render Unit
  | .text cs => print cs
  | .value o => printValue lib s o
  | .call c => callInline lib s c
  | .part c body => part lib again s c body
  | .directive c body => directive lib s c body
  | .block c params ownLine body inverse => do
    let args ← evalAll lib s c.args
    let named ← evalNamed lib s c.named
    call (fun o => o.indentsNext || (ownLine && o.endsLine)) do
      match ← decideBlock lib s c params args named with
      | .body scopes => scopes.forM fun s => do
        enterBlock
        nodes lib again s body
      | .inverse => otherwise lib again s inverse

def nodes (lib : Library) (again : Again) (s : Scope) : List Node → Render Unit
  | [] => pure ()
  | n :: rest => do
    node lib again s n
    nodes lib again s rest

def otherwise (lib : Library) (again : Again) (s : Scope) : Option (List Node) → Render Unit
  | none => pure ()
  | some body => do
    enterBlock
    nodes lib again s body

end

def template (lib : Library) : (depth : Nat) → Again
  | 0, _, _, _ => throw .tooDeep
  | depth + 1, s, id, body => do
    modify fun p => { p with template := id }
    nodes lib (template lib depth) s body

end Render

def partLimit : Nat := 1000

/-- Renders a template; tells what was printed, what went wrong and which names are used up. -/
def render (lib : Library) (names : UniqueNames) (id : String) (body : List Node) (data : Json) :
    Except RenderError Unit × List Char × UniqueNames :=
  let scope := Scope.ofData data.sorted
  let (result, p) := (Render.template lib partLimit scope (some id) body).run.run { names }
  (result, p.output.text, p.names)

end SchemaForge.Template
