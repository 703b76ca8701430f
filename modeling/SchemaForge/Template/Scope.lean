import SchemaForge.Template.Basic

/-! What paths in a template mean: the blocks around a place in it, each with a value, named
parameters and facts about its current item. -/

namespace SchemaForge.Template

inductive RenderError where
  | unknownHelper (name : String)
  | missingOperand (helper : String)
  | notText (helper : String)
  | badLevel (level : String)
  /-- An array was asked for a name that is no index. -/
  | badIndex (name : String)
  | unknownPart (name : String)
  | circularPart (name : String)
  | unknownDirective (name : String)
  | missingBody (directive : String)
  | tooDeep
deriving Repr, DecidableEq

structure Frame where
  value : Json
  params : List (String × Json) := []
  facts : List (String × Json) := []
deriving Repr, Inhabited

/-- The data of the template and the frames around a place, the innermost first. -/
structure Scope where
  root : Json
  outer : List Frame := []
  inner : Frame
deriving Repr, Inhabited

def index? (name : String) : Option Nat :=
  let digits := match name.toList with
    | '+' :: rest => rest
    | cs => cs
  if digits.isEmpty || digits.any (fun c => !c.isDigit) then none
  else
    let n := digits.foldl (fun n d => 10 * n + (d.toNat - 48)) 0
    if n < Nat.pow 2 64 then some n else none

/-- Follows names into a value; what is not there has no value. -/
def navigate : List String → Json → Except RenderError (Option Json)
  | [], v => .ok (some v)
  | name :: rest, .arr items =>
    match index? name with
    | none => .error (.badIndex name)
    | some i =>
      match items[i]? with
      | some v => navigate rest v
      | none => .ok none
  | name :: rest, .obj members =>
    match members.lookup name with
    | some v => navigate rest v
    | none => .ok none
  | _ :: _, _ => .ok none

namespace Scope

def ofData (data : Json) : Scope where
  root := data
  inner := { value := data }

def frames (s : Scope) : List Frame :=
  s.inner :: s.outer

def push (s : Scope) (f : Frame) : Scope :=
  { s with inner := f, outer := s.frames }

/-- The scope of another template, which sees the data but none of the blocks. -/
def alone (s : Scope) (value : Json) : Scope :=
  { s with inner := { value }, outer := [] }

/-- The frame a number of blocks further out; where there is none, the innermost. -/
def frameAt (s : Scope) (ups : Nat) : Frame :=
  (s.frames[ups]?).getD s.inner

def param? (s : Scope) (name : String) : Option Json :=
  s.frames.findSome? (·.params.lookup name)

/-- A fact of the nearest block that has one of that name, from a number of blocks further out. -/
def fact? (s : Scope) (ups : Nat) (name : String) : Option Json :=
  (s.frames.drop ups).findSome? (·.facts.lookup name)

/-- The value of a path. A parameter is found by the first name however many steps outwards stand
before it, and of a path to a fact only the first name counts. -/
def resolve (s : Scope) (p : ValuePath) : Except RenderError (Option Json) :=
  match p.origin with
  | .root => navigate p.names s.root
  | .about ups => .ok (p.names.head?.bind (s.fact? ups))
  | .here ups =>
    match p.names.head?.bind s.param? with
    | some v => navigate p.names.tail v
    | none => navigate p.names (s.frameAt ups).value

end Scope

end SchemaForge.Template
