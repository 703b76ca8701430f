import Mathlib.Tactic.Common
import SchemaForge.Toml.Parser

/-! Tables that are read hold no key twice, at any depth. A document grows one key at a time, each
key is put where it stands or at the end, and so is every entry of an inline table. -/

namespace SchemaForge.Toml

mutual

/-- No table within a value, as far as keys lead to it, has a key twice. -/
def Value.Distinct : Value → Prop
  | .table entries => DistinctEntries entries
  | _ => True

def DistinctEntries : List (String × Value) → Prop
  | [] => True
  | (key, v) :: rest => List.lookup key rest = none ∧ v.Distinct ∧ DistinctEntries rest

end

mutual

def Node.Distinct : Node → Prop
  | .value v => v.Distinct
  | .table _ entries => DistinctNodes entries
  | .tables _ => True

def DistinctNodes : List (String × Node) → Prop
  | [] => True
  | (key, n) :: rest => List.lookup key rest = none ∧ n.Distinct ∧ DistinctNodes rest

end

namespace Entries

variable {entries : Entries} {key : String} {node : Node}

theorem lookup_set_of_ne {other : String} (h : other ≠ key) (node : Node) (entries : Entries) :
    (set key node entries).lookup other = entries.lookup other := by
  have hother : (other == key) = false := beq_eq_false_iff_ne.mpr h
  induction entries with
  | nil => simp only [set, List.lookup_cons, hother]
  | cons entry rest ih =>
    obtain ⟨k, n⟩ := entry
    by_cases hk : k = key
    · subst hk
      simp only [set, if_true, List.lookup_cons, hother]
    · simp only [set, if_neg hk, List.lookup_cons]
      rw [ih]

theorem distinct_of_lookup (h : DistinctNodes entries) (hlookup : entries.lookup key = some node) :
    node.Distinct := by
  induction entries with
  | nil => cases hlookup
  | cons entry rest ih =>
    obtain ⟨k, n⟩ := entry
    rw [DistinctNodes] at h
    rw [List.lookup_cons] at hlookup
    split at hlookup
    · cases hlookup
      exact h.2.1
    · exact ih h.2.2 hlookup

theorem distinct_set (h : DistinctNodes entries) (hnode : node.Distinct) :
    DistinctNodes (set key node entries) := by
  induction entries with
  | nil => exact ⟨rfl, hnode, trivial⟩
  | cons entry rest ih =>
    obtain ⟨k, n⟩ := entry
    rw [DistinctNodes] at h
    by_cases hk : k = key
    · subst hk
      simp only [set, if_true]
      exact ⟨h.1, hnode, h.2.2⟩
    · simp only [set, if_neg hk]
      exact ⟨(lookup_set_of_ne hk node rest).trans h.1, h.2.1, ih h.2.2⟩

theorem distinct_of_bind {found : Option Entries} {wrap : Entries → Node} {changed : Entries}
    (h : DistinctNodes entries)
    (hchanged : (found.bind fun inner => some (set key (wrap inner) entries)) = some changed)
    (hwrap : ∀ inner, found = some inner → (wrap inner).Distinct) :
    DistinctNodes changed := by
  rw [Option.bind_eq_some_iff] at hchanged
  obtain ⟨inner, hinner, hset⟩ := hchanged
  cases hset
  exact distinct_set h (hwrap inner hinner)

def Keeps (change : Entries → Option Entries) : Prop :=
  ∀ entries changed, DistinctNodes entries → change entries = some changed → DistinctNodes changed

end Entries

open Entries (Keeps distinct_set distinct_of_lookup distinct_of_bind)

theorem keeps_openTable (path : List String) : Keeps (openTable path) := by
  intro entries changed h hopen
  fun_induction openTable path entries generalizing changed with
  | case1 => cases hopen
  | case2 key entries hnone =>
    cases hopen
    exact distinct_set h trivial
  | case3 key entries inner hfound =>
    have hinner : DistinctNodes inner := distinct_of_lookup h hfound
    cases hopen
    exact distinct_set h hinner
  | case4 => cases hopen
  | case5 key path entries hpath hnone ih =>
    exact distinct_of_bind h hopen fun inner hinner => ih inner trivial hinner
  | case6 key path entries hpath origin inner hfound ih =>
    have hinner : DistinctNodes inner := distinct_of_lookup h hfound
    exact distinct_of_bind h hopen fun deeper hdeeper => ih deeper hinner hdeeper
  | case7 key path entries hpath last others hfound ih =>
    exact distinct_of_bind h hopen fun _ _ => trivial
  | case8 => cases hopen

theorem keeps_openItem (path : List String) : Keeps (openItem path) := by
  intro entries changed h hopen
  fun_induction openItem path entries generalizing changed with
  | case1 => cases hopen
  | case2 key entries hnone =>
    cases hopen
    exact distinct_set h trivial
  | case3 key entries items hfound =>
    cases hopen
    exact distinct_set h trivial
  | case4 => cases hopen
  | case5 key path entries hpath hnone ih =>
    exact distinct_of_bind h hopen fun inner hinner => ih inner trivial hinner
  | case6 key path entries hpath origin inner hfound ih =>
    have hinner : DistinctNodes inner := distinct_of_lookup h hfound
    exact distinct_of_bind h hopen fun deeper hdeeper => ih deeper hinner hdeeper
  | case7 key path entries hpath last others hfound ih =>
    exact distinct_of_bind h hopen fun _ _ => trivial
  | case8 => cases hopen

theorem keeps_addDotted {v : Value} (hv : v.Distinct) (path : List String) :
    Keeps (addDotted v path) := by
  intro entries changed h hadd
  fun_induction addDotted v path entries generalizing changed with
  | case1 => cases hadd
  | case2 key entries hnone =>
    cases hadd
    exact distinct_set h hv
  | case3 => cases hadd
  | case4 key path entries hpath hnone ih =>
    exact distinct_of_bind h hadd fun inner hinner => ih inner trivial hinner
  | case5 key path entries hpath inner hfound ih =>
    have hinner : DistinctNodes inner := distinct_of_lookup h hfound
    exact distinct_of_bind h hadd fun deeper hdeeper => ih deeper hinner hdeeper
  | case6 => cases hadd

theorem keeps_within {change : Entries → Option Entries} (hchange : Keeps change)
    (path : List String) : Keeps (within change path) := by
  intro entries changed h hwithin
  fun_induction within change path entries generalizing changed with
  | case1 entries => exact hchange entries changed h hwithin
  | case2 key path entries origin inner hfound ih =>
    have hinner : DistinctNodes inner := distinct_of_lookup h hfound
    exact distinct_of_bind h hwithin fun deeper hdeeper => ih deeper hinner hdeeper
  | case3 key path entries last others hfound ih =>
    exact distinct_of_bind h hwithin fun _ _ => trivial
  | case4 => cases hwithin

theorem lookup_entriesToTable (key : String) (entries : Entries) :
    (entriesToTable entries).lookup key = (entries.lookup key).map Node.toValue := by
  induction entries with
  | nil => rfl
  | cons entry rest ih =>
    obtain ⟨k, n⟩ := entry
    simp only [entriesToTable, List.lookup_cons, ih]
    split <;> rfl

mutual

theorem Node.distinct_toValue : (n : Node) → n.Distinct → n.toValue.Distinct
  | .value _, h => h
  | .table _ entries, h => distinct_entriesToTable entries h
  | .tables _, _ => trivial

theorem distinct_entriesToTable :
    (entries : List (String × Node)) → DistinctNodes entries →
      DistinctEntries (entriesToTable entries)
  | [], _ => trivial
  | (key, n) :: rest, h => by
    rw [DistinctNodes] at h
    rw [entriesToTable, DistinctEntries, lookup_entriesToTable, h.1]
    exact ⟨rfl, n.distinct_toValue h.2.1, distinct_entriesToTable rest h.2.2⟩

end

theorem distinct_numberOf? {cs : List Char} {v : Value} (h : numberOf? cs = some v) :
    v.Distinct := by
  have hnumber : (∃ n, v = .integer n) ∨ ∃ literal, v = .float literal := by
    unfold numberOf? at h
    grind
  rcases hnumber with ⟨n, rfl⟩ | ⟨literal, rfl⟩
  · trivial
  · trivial

theorem distinct_readScalar {cs rest : List Char} {v : Value} (h : readScalar cs = some (v, rest)) :
    v.Distinct := by
  unfold readScalar at h
  split at h
  · simp only [Option.bind_eq_bind, Option.bind_eq_some_iff] at h
    obtain ⟨after, -, hmoment⟩ := h
    cases hmoment
    trivial
  · dsimp only [pure_bind] at h
    split at h
    · cases h
      trivial
    · split at h
      · cases h
        trivial
      · simp only [Option.bind_eq_bind, Option.bind_eq_some_iff] at h
        obtain ⟨number, hnumber, hv⟩ := h
        cases hv
        exact distinct_numberOf? hnumber

/-- The induction is on the fuel, which all three readers share. -/
theorem distinct_read (fuel : Nat) :
    (∀ depth cs v rest, readValue fuel depth cs = some (v, rest) → v.Distinct) ∧
    (∀ depth acc cs v rest, readItems fuel depth acc cs = some (v, rest) → v.Distinct) ∧
    ∀ depth entries cs v rest, DistinctNodes entries →
      readInline fuel depth entries cs = some (v, rest) → v.Distinct := by
  induction fuel with
  | zero =>
    refine ⟨?_, ?_, ?_⟩
    · intro depth cs v rest h
      cases h
    · intro depth acc cs v rest h
      cases h
    · intro depth entries cs v rest hentries h
      cases h
  | succ fuel ih =>
    obtain ⟨hvalue, hitems, hinline⟩ := ih
    refine ⟨?_, ?_, ?_⟩
    · intro depth cs v rest h
      unfold readValue at h
      split at h
      · obtain ⟨s, -, hs⟩ := Option.map_eq_some_iff.mp h
        cases hs
        trivial
      · obtain ⟨s, -, hs⟩ := Option.map_eq_some_iff.mp h
        cases hs
        trivial
      · split at h
        · cases h
        · exact hitems _ _ _ _ _ h
      · split at h
        · cases h
        · exact hinline _ [] _ _ _ trivial h
      · exact distinct_readScalar h
    · intro depth acc cs v rest h
      unfold readItems at h
      simp only [Option.bind_eq_bind, Option.bind_eq_some_iff] at h
      obtain ⟨begun, -, h⟩ := h
      split at h
      · cases h
        trivial
      · simp only [Option.bind_eq_some_iff] at h
        obtain ⟨item, -, next, -, h⟩ := h
        split at h
        · exact hitems _ _ _ _ _ h
        · cases h
          trivial
        · cases h
    · intro depth entries cs v rest hentries h
      unfold readInline at h
      simp only [Option.bind_eq_bind, Option.bind_eq_some_iff] at h
      obtain ⟨begun, -, h⟩ := h
      split at h
      · cases h
        exact distinct_entriesToTable entries hentries
      · simp only [Option.bind_eq_some_iff] at h
        obtain ⟨⟨key, afterKey⟩, -, h⟩ := h
        split at h
        · simp only [Option.bind_eq_some_iff] at h
          obtain ⟨⟨item, afterItem⟩, hitem, grown, hgrown, next, -, h⟩ := h
          have hkept : DistinctNodes grown :=
            keeps_addDotted (hvalue _ _ _ _ hitem) key entries grown hentries hgrown
          split at h
          · exact hinline _ _ _ _ _ hkept h
          · cases h
            exact distinct_entriesToTable grown hkept
          · cases h
        · cases h

theorem keeps_readLines {fuel : Nat} {current : List String} {entries read : Entries}
    {cs : List Char} (h : DistinctNodes entries)
    (hread : readLines fuel current entries cs = some read) : DistinctNodes read := by
  induction fuel generalizing current entries cs with
  | zero => cases hread
  | succ fuel ih =>
    unfold readLines at hread
    simp only [Option.bind_eq_bind, Option.bind_eq_some_iff] at hread
    obtain ⟨begun, -, hread⟩ := hread
    split at hread
    · cases hread
      exact h
    · simp only [Option.bind_eq_some_iff] at hread
      obtain ⟨⟨path, afterPath⟩, -, hread⟩ := hread
      split at hread
      · simp only [Option.bind_eq_some_iff] at hread
        obtain ⟨opened, hopened, next, -, hread⟩ := hread
        exact ih (keeps_openItem path entries opened h hopened) hread
      · cases hread
    · simp only [Option.bind_eq_some_iff] at hread
      obtain ⟨⟨path, afterPath⟩, -, hread⟩ := hread
      split at hread
      · simp only [Option.bind_eq_some_iff] at hread
        obtain ⟨opened, hopened, next, -, hread⟩ := hread
        exact ih (keeps_openTable path entries opened h hopened) hread
      · cases hread
    · simp only [Option.bind_eq_some_iff] at hread
      obtain ⟨⟨key, afterKey⟩, -, hread⟩ := hread
      split at hread
      · simp only [Option.bind_eq_some_iff] at hread
        obtain ⟨⟨v, afterValue⟩, hv, grown, hgrown, next, -, hread⟩ := hread
        have hdotted : Keeps (addDotted v key) :=
          keeps_addDotted ((distinct_read _).1 _ _ _ _ hv) key
        exact ih (keeps_within hdotted current entries grown h hgrown) hread
      · cases hread

theorem distinct_parse {text : String} {table : Table} (h : parse text = some table) :
    DistinctEntries table := by
  unfold parse at h
  simp only [Option.bind_eq_bind, Option.bind_eq_some_iff] at h
  obtain ⟨entries, hentries, htable⟩ := h
  cases htable
  have hnone : DistinctNodes [] := trivial
  exact distinct_entriesToTable entries (keeps_readLines hnone hentries)

end SchemaForge.Toml
