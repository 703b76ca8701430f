import SchemaForge.Number.Binary64

/-! JSON values. Object members keep the order, and the repetitions, of the text they came from;
`Json.sorted` gives the form in which each key occurs once, in key order. -/

namespace SchemaForge

inductive Json where
  | null
  | bool (b : Bool)
  | int (n : Int)
  /-- A number with a fraction, an exponent or more digits than an integer of 64 bits holds. -/
  | real (x : Binary64)
  | str (s : String)
  | arr (items : List Json)
  | obj (members : List (String × Json))
deriving Repr, Inhabited

namespace Json

def insertSorted (key : String) (value : Json) : List (String × Json) → List (String × Json)
  | [] => [(key, value)]
  | (k, v) :: rest =>
    if key < k then (key, value) :: (k, v) :: rest
    else if key == k then (key, value) :: rest
    else (k, v) :: insertSorted key value rest

mutual

/-- Objects with their keys in order; of a repeated key the last value stays. -/
def sorted : Json → Json
  | arr items => arr (sortedItems items)
  | obj members => obj (sortedMembers members [])
  | null => null
  | bool b => bool b
  | int n => int n
  | real x => real x
  | str s => str s

def sortedItems : List Json → List Json
  | [] => []
  | v :: rest => sorted v :: sortedItems rest

def sortedMembers : List (String × Json) → List (String × Json) → List (String × Json)
  | [], acc => acc
  | (k, v) :: rest, acc => sortedMembers rest (insertSorted k (sorted v) acc)

end

mutual

/-- Whether two values are equal. An integer differs from every other number, and members count in
their order. -/
def same : Json → Json → Bool
  | null, null => true
  | bool a, bool b => a == b
  | int a, int b => a == b
  | real a, real b => a.compare b == .eq
  | str a, str b => a == b
  | arr a, arr b => sameItems a b
  | obj a, obj b => sameMembers a b
  | _, _ => false

def sameItems : List Json → List Json → Bool
  | [], [] => true
  | a :: as, b :: bs => same a b && sameItems as bs
  | _, _ => false

def sameMembers : List (String × Json) → List (String × Json) → Bool
  | [], [] => true
  | (k, a) :: as, (l, b) :: bs => k == l && same a b && sameMembers as bs
  | _, _ => false

end

/-- The value of a member; of a repeated key the last. -/
def get? (key : String) : Json → Option Json
  | obj members => members.reverse.lookup key
  | _ => none

def str? : Json → Option String
  | str s => some s
  | _ => none

def bool? : Json → Option Bool
  | bool b => some b
  | _ => none

def int? : Json → Option Int
  | int n => some n
  | _ => none

def arr? : Json → Option (List Json)
  | arr items => some items
  | _ => none

def strings (items : List String) : Json :=
  arr (items.map str)

def ofOption (f : α → Json) : Option α → Json
  | some a => f a
  | none => null

end Json

end SchemaForge
