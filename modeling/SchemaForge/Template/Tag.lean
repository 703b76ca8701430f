import SchemaForge.Template.Expression

/-! Reading one tag, from after its two opening braces to after its closing ones. -/

namespace SchemaForge.Template

inductive Tag where
  | value (node : Node)
  | start (call : Call) (params : List String)
  | invert
  /-- An inverse that holds one more block and ends with it. -/
  | chain (call : Call) (params : List String)
  | part (call : PartCall)
  | startPart (call : PartCall)
  | directive (call : Call)
  | startDirective (call : Call)
  | stop (name : String)
  /-- The end of a part whose name no helper can have. -/
  | stopPart (name : String)
  | comment
deriving Repr, Inhabited

/-- A tag with what its tildes say: space before it, or after it, is left out. -/
structure Marked where
  tag : Tag
  lead : Bool
  trail : Bool
deriving Repr, Inhabited

def finishWith (braces : List Char) (lead : Bool) (tag : Tag) (cs : List Char) :
    Except Halt (Marked × List Char) := do
  let (trail, rest) := tilde cs
  .ok (⟨tag, lead, trail⟩, ← expect braces rest)

def finish : Bool → Tag → List Char → Except Halt (Marked × List Char) :=
  finishWith closing

def afterFirst (word : List Char) : List Char → Option (List Char)
  | [] => none
  | c :: rest =>
    if word.isPrefixOf (c :: rest) then some ((c :: rest).drop word.length)
    else afterFirst word rest

def comment (cs : List Char) : Except Halt (Marked × List Char) :=
  let long := match skipSpace cs with
    | '-' :: '-' :: rest => afterFirst ('-' :: '-' :: closing) rest
    | _ => none
  match long <|> afterFirst closing cs with
  | some rest => .ok (⟨.comment, false, false⟩, rest)
  | none => .error .mismatch

/-- A value in three braces; the tilde stands outside or inside the third. -/
def triple (lead : Bool) (body : List Char) : Except Halt (Marked × List Char) :=
  orElse
    (do
      let (node, rest) ← expression (skipSpace body)
      let rest ← expect ['\x7d'] (skipSpace rest)
      finish lead (.value node) rest)
    (do
      if lead then .error .mismatch
      else
        let (lead, rest) := tilde body
        let (node, rest) ← expression rest
        let (trail, rest) := tilde rest
        .ok (⟨.value node, lead, trail⟩, ← expect ('\x7d' :: closing) rest))

def invertWord (cs : List Char) : Except Halt (List Char) :=
  orElse (expect ['^'] cs) (expect "else".toList cs)

/-- The start of an inverse, alone or with a block of its own, whose helper may follow without
space. -/
def inverse (lead : Bool) (body : List Char) : Except Halt (Marked × List Char) := do
  let rest ← invertWord body
  orElse (finish lead .invert rest)
    (do
      let ((call, params), rest) ← blockHead rest
      finish lead (.chain call params) rest)

def start (lead : Bool) (body : List Char) : Except Halt (Marked × List Char) :=
  match skipSpace body with
  | '>' :: rest => do
    let (part, rest) ← partHead rest
    finish lead (.startPart part) rest
  | '*' :: rest => do
    let ((call, _), rest) ← blockHead rest
    finish lead (.startDirective call) rest
  | rest => do
    let ((call, params), rest) ← blockHead rest
    finish lead (.start call params) rest

def stop (lead : Bool) (body : List Char) : Except Halt (Marked × List Char) :=
  let body := skipSpace body
  orElse
    (do
      let (helper, rest) ← identifier body
      finish lead (.stop helper) rest)
    (do
      let (part, rest) ← partWord body
      finish lead (.stopPart part) rest)

def tag (cs : List Char) : Except Halt (Marked × List Char) :=
  match cs with
  | '!' :: rest => comment rest
  | _ =>
    let (lead, body) := tilde cs
    match body with
    | '\x7b' :: rest => triple lead rest
    | '&' :: rest => do
      let (node, rest) ← single (skipSpace rest)
      finish lead (.value node) rest
    | '#' :: rest => start lead rest
    | '/' :: rest => stop lead rest
    | '>' :: rest => do
      let (part, rest) ← partHead rest
      finish lead (.part part) rest
    | '*' :: rest => do
      let ((call, _), rest) ← blockHead rest
      finish lead (.directive call) rest
    | _ => orElse (inverse lead body)
      (do
        let (node, rest) ← expression body
        finish lead (.value node) rest)

section Verbatim

def wideOpening : List Char := opening ++ opening
def wideClosing : List Char := closing ++ closing

def wideStart (cs : List Char) : Except Halt (Marked × List Char) := do
  let (lead, body) := tilde cs
  let ((call, params), rest) ← blockHead body
  finishWith wideClosing lead (.start call params) rest

def wideStop (cs : List Char) : Except Halt (Marked × List Char) := do
  let (lead, body) := tilde cs
  let rest ← expect ['/'] body
  let (helper, rest) ← identifier (skipSpace rest)
  finishWith wideClosing lead (.stop helper) rest

end Verbatim

end SchemaForge.Template
