import SchemaForge.Json.Printer
import SchemaForge.Naming.Encoder
import SchemaForge.Naming.Unique
import SchemaForge.Number.Reading
import SchemaForge.Template.Scope

/-! The helpers that templates may call. Block helpers decide whether and how often a block is
rendered; value helpers compute a value. -/

namespace SchemaForge.Template

inductive BlockHelper where
  /-- Renders the body if the operand is truthy, or if it is not. -/
  | cond (wanted : Bool)
  | each
  | scoped
  | plain
  | silent
deriving Repr, DecidableEq

inductive ValueHelper where
  | lookup
  | eq
  | ne
  | gt
  | gte
  | lt
  | lte
  | both
  | either
  | negate
  | size
  | identifier
  | uniqueName
  | snakeCase
  | macroName
deriving Repr, DecidableEq

inductive Helper where
  | block (helper : BlockHelper)
  | value (helper : ValueHelper)
deriving Repr, DecidableEq

namespace Helper

def table : List (String × Helper) := [
  ("if", .block (.cond true)),
  ("unless", .block (.cond false)),
  ("each", .block .each),
  ("with", .block .scoped),
  ("raw", .block .plain),
  ("log", .block .silent),
  ("lookup", .value .lookup),
  ("eq", .value .eq),
  ("ne", .value .ne),
  ("gt", .value .gt),
  ("gte", .value .gte),
  ("lt", .value .lt),
  ("lte", .value .lte),
  ("and", .value .both),
  ("or", .value .either),
  ("not", .value .negate),
  ("len", .value .size),
  ("id", .value .identifier),
  ("unique_name", .value .uniqueName),
  ("snake_case", .value .snakeCase),
  ("macrofy", .value .macroName)]

def ofName? (name : String) : Option Helper :=
  table.lookup name

end Helper

structure Naming where
  encoder : Encoder
  domain : String
  affix : String

/-- Whether a block for a value is rendered. Numbers too small for all their digits count as zero,
which counts as true only on demand. -/
def isTruthy (zero : Bool) : Json → Bool
  | .null => false
  | .bool b => b
  | .int n => zero || n ≠ 0
  | .real x => zero || x.isNormal
  | .str s => !s.isEmpty
  | .arr items => !items.isEmpty
  | .obj members => !members.isEmpty

/-- The order of two numbers, texts or truth values, or of a number and a text that reads as one. -/
def order? : Json → Json → Option Ordering
  | .int a, .int b => some (compare a b)
  | .int a, .real b => some ((Binary64.ofInt a).compare b)
  | .real a, .int b => some (a.compare (Binary64.ofInt b))
  | .real a, .real b => some (a.compare b)
  | .str a, .str b => some (compare a b)
  | .bool a, .bool b => some (compare a b)
  | .int a, .str b => (Binary64.ofInt a).compareText? b
  | .real a, .str b => a.compareText? b
  | .str a, .int b => ((Binary64.ofInt b).compareText? a).map Ordering.swap
  | .str a, .real b => (b.compareText? a).map Ordering.swap
  | _, _ => none

/-- How a value is printed: nothing for null, the items of an array in brackets. -/
def printed : Json → List Char
  | .null => []
  | .bool true => "true".toList
  | .bool false => "false".toList
  | .int n => (toString n).toList
  | .real x => x.text.toList
  | .str s => s.toList
  | .arr items => '[' :: listed items ++ [']']
  | .obj _ => "[object]".toList
where
  listed : List Json → List Char
    | [] => []
    | [v] => printed v
    | v :: rest => printed v ++ ", ".toList ++ listed rest

def tokenText : Json → String
  | .str s => s
  | v => v.print

def sizeOf : Json → Nat
  | .str s => s.utf8ByteSize
  | .arr items => items.length
  | .obj members => members.length
  | _ => 0

namespace ValueHelper

def arity : ValueHelper → Nat
  | both | either => 0
  | negate | size | identifier | uniqueName | snakeCase | macroName => 1
  | lookup | eq | ne | gt | gte | lt | lte => 2

/-- Whether a helper tests its operands; as a block it then chooses between body and inverse. -/
def isTest : ValueHelper → Bool
  | eq | ne | gt | gte | lt | lte | both | either | negate => true
  | lookup | size | identifier | uniqueName | snakeCase | macroName => false

def member : Json → Json → Json
  | .arr items, .int n => if n < 0 then .null else (items[n.toNat]?).getD .null
  | .obj members, .str key => (members.lookup key).getD .null
  | _, _ => .null

def onText (helper : String) (f : String → String) : Json → Except RenderError Json
  | .str s => .ok (.str (f s))
  | _ => .error (.notText helper)

def compared (test : Ordering → Bool) (a b : Json) : Json :=
  .bool ((order? a b).any test)

/-- The value of a helper; operands that it does not need are left out of account. -/
def apply (h : ValueHelper) (naming : Naming) (names : UniqueNames) (args : List Json) :
    Except RenderError Json × UniqueNames :=
  let a := args.head?.getD .null
  let b := (args[1]?).getD .null
  match h with
  | lookup => (.ok (member a b), names)
  | eq => (.ok (.bool (a.same b)), names)
  | ne => (.ok (.bool (!a.same b)), names)
  | gt => (.ok (compared (·.isGT) a b), names)
  | gte => (.ok (compared (·.isGE) a b), names)
  | lt => (.ok (compared (·.isLT) a b), names)
  | lte => (.ok (compared (·.isLE) a b), names)
  | both => (.ok (.bool (args.all (isTruthy false))), names)
  | either => (.ok (.bool (args.any (isTruthy false))), names)
  | negate => (.ok (.bool (!isTruthy false a)), names)
  | size => (.ok (.int (sizeOf a)), names)
  | identifier => (.ok (.str (naming.encoder.encode (tokenText a))), names)
  | uniqueName =>
    let (name, names) := names.next naming.domain (tokenText a) naming.affix
    (.ok (.str name), names)
  | snakeCase => (onText "snake_case" Text.snakeCase a, names)
  | macroName => (onText "macrofy" Text.macroName a, names)

end ValueHelper

def logLevels : List String :=
  ["error", "warn", "info", "debug", "trace"]

/-- Checks the level of a message; without a text for it there is a usual one. -/
def checkLevel (named : List (String × Json)) : Except RenderError Unit :=
  match named.lookup "level" with
  | some (.str level) =>
    if logLevels.contains (String.ofList (level.toList.map Char.toLower)) then .ok ()
    else .error (.badLevel level)
  | _ => .ok ()

end SchemaForge.Template
