import SchemaForge.Toml.Basic

/-! A TOML document under construction. Every table remembers how it came to be, because that
decides what may still be added to it: a table may be opened by one header only, tables made by
dotted keys grow by dotted keys only, and inline values are closed. -/

namespace SchemaForge.Toml

inductive Origin where
  /-- Named by its own header. -/
  | header
  /-- Only on the way to a header's table. -/
  | passing
  /-- On the way of a dotted key. -/
  | dotted
deriving DecidableEq, Repr

inductive Node where
  | value (v : Value)
  | table (origin : Origin) (entries : List (String × Node))
  /-- The tables of repeated `[[...]]` headers, the latest first. -/
  | tables (items : List (List (String × Node)))
deriving Inhabited

abbrev Entries := List (String × Node)

def Entries.set (key : String) (node : Node) : Entries → Entries
  | [] => [(key, node)]
  | (k, n) :: rest => if k = key then (key, node) :: rest else (k, n) :: Entries.set key node rest

def openTable : List String → Entries → Option Entries
  | [], _ => none
  | [key], entries =>
    match entries.lookup key with
    | none => some (Entries.set key (.table .header []) entries)
    | some (.table .passing inner) => some (Entries.set key (.table .header inner) entries)
    | some _ => none
  | key :: path, entries =>
    match entries.lookup key with
    | none => do
      let inner ← openTable path []
      some (Entries.set key (.table .passing inner) entries)
    | some (.table origin inner) => do
      let inner ← openTable path inner
      some (Entries.set key (.table origin inner) entries)
    | some (.tables (last :: others)) => do
      let last ← openTable path last
      some (Entries.set key (.tables (last :: others)) entries)
    | some _ => none

def openItem : List String → Entries → Option Entries
  | [], _ => none
  | [key], entries =>
    match entries.lookup key with
    | none => some (Entries.set key (.tables [[]]) entries)
    | some (.tables items) => some (Entries.set key (.tables ([] :: items)) entries)
    | some _ => none
  | key :: path, entries =>
    match entries.lookup key with
    | none => do
      let inner ← openItem path []
      some (Entries.set key (.table .passing inner) entries)
    | some (.table origin inner) => do
      let inner ← openItem path inner
      some (Entries.set key (.table origin inner) entries)
    | some (.tables (last :: others)) => do
      let last ← openItem path last
      some (Entries.set key (.tables (last :: others)) entries)
    | some _ => none

def addDotted (value : Value) : List String → Entries → Option Entries
  | [], _ => none
  | [key], entries =>
    match entries.lookup key with
    | none => some (Entries.set key (.value value) entries)
    | some _ => none
  | key :: path, entries =>
    match entries.lookup key with
    | none => do
      let inner ← addDotted value path []
      some (Entries.set key (.table .dotted inner) entries)
    | some (.table .dotted inner) => do
      let inner ← addDotted value path inner
      some (Entries.set key (.table .dotted inner) entries)
    | some _ => none

def within (change : Entries → Option Entries) : List String → Entries → Option Entries
  | [], entries => change entries
  | key :: path, entries =>
    match entries.lookup key with
    | some (.table origin inner) => do
      let inner ← within change path inner
      some (Entries.set key (.table origin inner) entries)
    | some (.tables (last :: others)) => do
      let last ← within change path last
      some (Entries.set key (.tables (last :: others)) entries)
    | _ => none

mutual

def Node.toValue : Node → Value
  | .value v => v
  | .table _ entries => .table (entriesToTable entries)
  | .tables items => .array (itemsToValues items []) 

def entriesToTable : List (String × Node) → List (String × Value)
  | [] => []
  | (k, n) :: rest => (k, n.toValue) :: entriesToTable rest

def itemsToValues : List (List (String × Node)) → List Value → List Value
  | [], acc => acc
  | entries :: rest, acc => itemsToValues rest (.table (entriesToTable entries) :: acc)

end

end SchemaForge.Toml
