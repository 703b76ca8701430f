import SchemaForge.Json.Basic

/-! Templates as trees: text, values to print, helper calls, blocks with a body and an optional
inverse, and parts that other templates fill. -/

namespace SchemaForge.Template

inductive Origin where
  /-- The value of the enclosing block, or of one further out. -/
  | here (ups : Nat)
  /-- What a block tells about itself, such as the index of an item. -/
  | about (ups : Nat)
  | root
deriving Repr, DecidableEq

structure ValuePath where
  raw : String
  origin : Origin
  names : List String
deriving Repr, DecidableEq

inductive Operand where
  | literal (value : Json)
  | path (path : ValuePath)
  | call (helper : String) (args : List Operand) (named : List (String × Operand))
deriving Repr, Inhabited

/-- A helper with its operands; no name stands twice. -/
structure Call where
  helper : String
  args : List Operand
  named : List (String × Operand)
deriving Repr, Inhabited

structure PartCall where
  /-- Its text is the name of the template. -/
  name : Operand
  args : List Operand
  named : List (String × Operand)
  /-- Blanks before the reference, which also go before the lines of the part. -/
  indent : List Char := []
  /-- Whether the reference stands on a line of its own. -/
  ownLine : Bool := false
deriving Repr, Inhabited

inductive Node where
  | text (chars : List Char)
  /-- A value by itself; a helper of that name is called instead. -/
  | value (operand : Operand)
  | call (call : Call)
  /-- A block; `ownLine` tells whether its start stands on a line of its own. -/
  | block (call : Call) (params : List String) (ownLine : Bool) (body : List Node)
      (inverse : Option (List Node))
  /-- Another template, or the block's own body where there is none. -/
  | part (call : PartCall) (body : Option (List Node))
  /-- A change to what the template knows, such as the definition of a part. -/
  | directive (call : Call) (body : Option (List Node))
deriving Repr, Inhabited

end SchemaForge.Template
