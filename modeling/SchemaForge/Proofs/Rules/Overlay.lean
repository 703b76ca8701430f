import Mathlib.Tactic.Common
import SchemaForge.Proofs.Toml.Distinct
import SchemaForge.Rules.Load

/-! Overlays, path by path. Where an overlay has a value other than a table, at a path or on the way
to it, the overlay alone decides what stands there; elsewhere the table below shows through. So an
overlay is laid once and for all, and what one sets stays until another sets it. -/

namespace SchemaForge

namespace Toml

def Value.isTable : Value → Bool
  | .table _ => true
  | _ => false

theorem Value.isTable_eq_false {v : Value} : v.isTable = false ↔ ∀ inner, v ≠ .table inner := by
  cases v <;> simp [isTable]

theorem Value.exists_of_isTable {v : Value} (h : v.isTable = true) : ∃ inner, v = .table inner := by
  cases v <;> simp_all [isTable]

namespace Table

/-- What a path of keys leads to; the empty path leads to the table itself. -/
def at? (t : Table) : List String → Option Value
  | [] => some (.table t)
  | key :: path =>
    match t.lookup key with
    | some (.table inner) => at? inner path
    | some v => if path = [] then some v else none
    | none => none

/-- A value other than a table stands at the path or on the way to it. -/
def Settles (t : Table) (path : List String) : Prop :=
  ∃ front v, front <+: path ∧ t.at? front = some v ∧ v.isTable = false

variable {base overlay inner t : Table} {key : String} {path : List String} {v : Value}

theorem at?_of_none (h : t.lookup key = none) : t.at? (key :: path) = none := by
  simp [at?, h]

theorem at?_of_table (h : t.lookup key = some (.table inner)) :
    t.at? (key :: path) = at? inner path := by
  simp [at?, h]

theorem at?_of_leaf (h : t.lookup key = some v) (hv : v.isTable = false) :
    t.at? (key :: path) = if path = [] then some v else none := by
  cases v <;> simp_all [at?, Value.isTable]

theorem not_settles_nil : ¬ t.Settles [] := by
  intro ⟨front, v, hfront, hat, hv⟩
  rw [List.prefix_nil] at hfront
  subst hfront
  cases hat
  cases hv

theorem not_settles_of_none (h : t.lookup key = none) : ¬ t.Settles (key :: path) := by
  intro ⟨front, v, hfront, hat, hv⟩
  cases front with
  | nil =>
    cases hat
    cases hv
  | cons k front =>
    obtain ⟨rfl, -⟩ := List.cons_prefix_cons.mp hfront
    rw [at?_of_none h] at hat
    cases hat

theorem settles_of_table (h : t.lookup key = some (.table inner)) :
    t.Settles (key :: path) ↔ Settles inner path := by
  constructor
  · intro ⟨front, v, hfront, hat, hv⟩
    cases front with
    | nil =>
      cases hat
      cases hv
    | cons k front =>
      obtain ⟨rfl, hrest⟩ := List.cons_prefix_cons.mp hfront
      rw [at?_of_table h] at hat
      exact ⟨front, v, hrest, hat, hv⟩
  · intro ⟨front, v, hfront, hat, hv⟩
    exact ⟨key :: front, v, List.cons_prefix_cons.mpr ⟨rfl, hfront⟩, by rwa [at?_of_table h], hv⟩

theorem settles_of_leaf (h : t.lookup key = some v) (hv : v.isTable = false) :
    t.Settles (key :: path) :=
  ⟨[key], v, by simp, by simp [at?_of_leaf h hv], hv⟩

theorem lookup_merge (h : DistinctEntries overlay) (base : Table) (key : String) :
    (base.merge overlay).lookup key =
      (overlay.lookup key).elim (base.lookup key)
        fun v => some (Value.over (base.lookup key) v) := by
  unfold merge
  induction overlay generalizing base with
  | nil => rw [overEntries]; rfl
  | cons entry rest ih =>
    obtain ⟨k, v⟩ := entry
    rw [DistinctEntries] at h
    rw [overEntries, ih h.2.2]
    by_cases hk : key = k
    · subst hk
      rw [h.1, List.lookup_cons_self, lookup_insert_self]
      rfl
    · have hne : (key == k) = false := beq_eq_false_iff_ne.mpr hk
      rw [lookup_insert_of_ne _ _ hk, List.lookup_cons, hne]

theorem over_table (below : Table) :
    Value.over (some (.table below)) (.table inner) = .table (below.merge inner) := by
  rw [Value.over]
  rfl

theorem over_eq {below : Option Value}
    (h : (∀ t, below ≠ some (.table t)) ∨ v.isTable = false) : Value.over below v = v := by
  unfold Value.over
  split
  · rename_i t inner
    rcases h with h | h
    · exact absurd rfl (h t)
    · cases h
  · rfl

theorem over_over_of_leaf (hv : v.isTable = false) (below : Option Value) :
    Value.over (some (Value.over below v)) v = Value.over below v := by
  rw [over_eq (Or.inr hv), over_eq (Or.inr hv)]

theorem at?_of_not_table (h : ∀ inner, t.lookup key ≠ some (.table inner)) (hpath : path ≠ []) :
    t.at? (key :: path) = none := by
  cases hlookup : t.lookup key with
  | none => exact at?_of_none hlookup
  | some v =>
    have hv : v.isTable = false := by
      rw [Value.isTable_eq_false]
      intro inner hinner
      exact h inner (hinner ▸ hlookup)
    rw [at?_of_leaf hlookup hv, if_neg hpath]

theorem distinct_of_lookup (h : DistinctEntries t) (hlookup : t.lookup key = some v) :
    v.Distinct := by
  induction t with
  | nil => cases hlookup
  | cons entry rest ih =>
    obtain ⟨k, u⟩ := entry
    rw [DistinctEntries] at h
    rw [List.lookup_cons] at hlookup
    split at hlookup
    · cases hlookup
      exact h.2.1
    · exact ih h.2.2 hlookup

/-- The induction is on the path; both tables go down with it as long as both have tables. -/
theorem at?_merge (h : DistinctEntries overlay) (base : Table) (path : List String) :
    (overlay.Settles path → (base.merge overlay).at? path = overlay.at? path) ∧
    (∀ inner, overlay.at? path = some (.table inner) →
      ∃ t, (base.merge overlay).at? path = some (.table t)) ∧
    (¬ overlay.Settles path → overlay.at? path = none →
      (base.merge overlay).at? path = base.at? path) := by
  induction path generalizing base overlay with
  | nil =>
    refine ⟨fun hsettles => absurd hsettles not_settles_nil, fun _ _ => ⟨_, rfl⟩, ?_⟩
    intro _ hnone
    cases hnone
  | cons key path ih =>
    have hmerge := lookup_merge h base key
    cases hoverlay : overlay.lookup key with
    | none =>
      rw [hoverlay] at hmerge
      have hsame : (base.merge overlay).at? (key :: path) = base.at? (key :: path) := by
        simp only [at?, hmerge, Option.elim]
      refine ⟨fun hsettles => absurd hsettles (not_settles_of_none hoverlay), ?_, fun _ _ => hsame⟩
      intro inner hinner
      rw [at?_of_none hoverlay] at hinner
      cases hinner
    | some v =>
      rw [hoverlay, Option.elim] at hmerge
      cases hv : v.isTable with
      | false =>
        -- The overlay has the last word here, and below here there is nothing else.
        have hsettles : overlay.Settles (key :: path) := settles_of_leaf hoverlay hv
        rw [over_eq (Or.inr hv)] at hmerge
        have hsame : (base.merge overlay).at? (key :: path) = overlay.at? (key :: path) := by
          rw [at?_of_leaf hmerge hv, at?_of_leaf hoverlay hv]
        refine ⟨fun _ => hsame, ?_, fun hnot => absurd hsettles hnot⟩
        intro inner hinner
        exact ⟨inner, hsame.trans hinner⟩
      | true =>
        obtain ⟨inner, rfl⟩ := Value.exists_of_isTable hv
        rw [settles_of_table hoverlay, at?_of_table hoverlay]
        by_cases hbelow : ∃ below, base.lookup key = some (.table below)
        · obtain ⟨below, hbelow⟩ := hbelow
          rw [hbelow, over_table] at hmerge
          rw [at?_of_table hmerge, at?_of_table hbelow]
          exact ih (distinct_of_lookup h hoverlay) below
        · rw [not_exists] at hbelow
          rw [over_eq (Or.inl hbelow)] at hmerge
          rw [at?_of_table hmerge]
          refine ⟨fun _ => rfl, fun inner' hinner => ⟨inner', hinner⟩, ?_⟩
          intro _ hnone
          have hpath : path ≠ [] := by
            intro hnil
            subst hnil
            cases hnone
          rw [hnone, at?_of_not_table hbelow hpath]

theorem insert_of_lookup (h : t.lookup key = some v) : insert key v t = t := by
  induction t with
  | nil => cases h
  | cons entry rest ih =>
    obtain ⟨k, u⟩ := entry
    by_cases hk : k = key
    · subst hk
      rw [List.lookup_cons_self] at h
      cases h
      simp [insert]
    · have hne : (key == k) = false := beq_eq_false_iff_ne.mpr (Ne.symm hk)
      rw [List.lookup_cons, hne] at h
      simp [insert, hk, ih h]

theorem merge_eq_self (h : ∀ key v, (key, v) ∈ overlay →
    ∃ w, base.lookup key = some w ∧ Value.over (some w) v = w) : base.merge overlay = base := by
  unfold merge
  induction overlay with
  | nil => rw [overEntries]
  | cons entry rest ih =>
    obtain ⟨k, v⟩ := entry
    obtain ⟨w, hw, hover⟩ := h k v List.mem_cons_self
    rw [overEntries, hw, hover, insert_of_lookup hw]
    exact ih fun key u hmem => h key u (List.mem_cons_of_mem _ hmem)

theorem lookup_of_mem (h : DistinctEntries t) (hmem : (key, v) ∈ t) : t.lookup key = some v := by
  induction t with
  | nil => cases hmem
  | cons entry rest ih =>
    obtain ⟨k, u⟩ := entry
    rw [DistinctEntries] at h
    rw [List.mem_cons] at hmem
    rcases hmem with heq | hmem
    · cases heq
      exact List.lookup_cons_self
    · have hrest := ih h.2.2 hmem
      have hne : (key == k) = false := by
        rw [beq_eq_false_iff_ne]
        intro heq
        subst heq
        rw [h.1] at hrest
        cases hrest
      rw [List.lookup_cons, hne, hrest]

theorem merge_merge_of (h : DistinctEntries overlay) (base : Table)
    (hover : ∀ key v, (key, v) ∈ overlay → ∀ below,
      Value.over (some (Value.over below v)) v = Value.over below v) :
    (base.merge overlay).merge overlay = base.merge overlay := by
  apply merge_eq_self
  intro key v hmem
  refine ⟨Value.over (base.lookup key) v, ?_, hover key v hmem _⟩
  rw [lookup_merge h, lookup_of_mem h hmem, Option.elim]

end Table

mutual

/-- Laid over a second time a value changes nothing. The induction is on the value that is laid
over: where it is a table, each of its entries has been laid over before. -/
theorem Value.over_over : (v : Value) → v.Distinct → (below : Option Value) →
    Value.over (some (Value.over below v)) v = Value.over below v
  | .table inner, h, below => by
    have hinner := over_over_entries inner h
    by_cases hbelow : ∃ t, below = some (.table t)
    · obtain ⟨t, rfl⟩ := hbelow
      rw [Table.over_table, Table.over_table, Table.merge_merge_of h t hinner]
    · rw [not_exists] at hbelow
      rw [Table.over_eq (Or.inl hbelow), Table.over_table, Table.merge_eq_self]
      intro key v hmem
      have hself := hinner key v hmem none
      have hnone : Value.over none v = v := Table.over_eq (Or.inl nofun)
      rw [hnone] at hself
      exact ⟨v, Table.lookup_of_mem h hmem, hself⟩
  | .string _, _, _ => Table.over_over_of_leaf rfl _
  | .integer _, _, _ => Table.over_over_of_leaf rfl _
  | .float _, _, _ => Table.over_over_of_leaf rfl _
  | .boolean _, _, _ => Table.over_over_of_leaf rfl _
  | .moment _, _, _ => Table.over_over_of_leaf rfl _
  | .array _, _, _ => Table.over_over_of_leaf rfl _

theorem over_over_entries : (entries : List (String × Value)) → DistinctEntries entries →
    ∀ key v, (key, v) ∈ entries → ∀ below,
      Value.over (some (Value.over below v)) v = Value.over below v
  | [], _, _, _, hmem, _ => by cases hmem
  | (k, u) :: rest, h, key, v, hmem, below => by
    rw [DistinctEntries] at h
    rw [List.mem_cons] at hmem
    rcases hmem with heq | hmem
    · cases heq
      exact Value.over_over u h.2.1 below
    · exact over_over_entries rest h.2.2 key v hmem below

end

theorem Table.merge_merge {overlay : Table} (h : DistinctEntries overlay) (base : Table) :
    (base.merge overlay).merge overlay = base.merge overlay :=
  merge_merge_of h base (over_over_entries overlay h)

end Toml

namespace RuleDraft

open Toml (Table)

variable {draft merged final : RuleDraft} {source : RuleSource} {overlay : Table}
  {path : List String} {v : Toml.Value}

theorem overlay_eq (hparse : parse source = .ok overlay) (draft : RuleDraft) :
    draft.overlay source = .ok ⟨draft.table.merge overlay, source⟩ := by
  simp [RuleDraft.overlay, hparse, bind, Except.bind]

theorem overlay_eq_ok (h : draft.overlay source = .ok merged) :
    ∃ overlay, parse source = .ok overlay ∧ merged = ⟨draft.table.merge overlay, source⟩ := by
  cases hparse : parse source with
  | error e => simp [RuleDraft.overlay, hparse, bind, Except.bind] at h
  | ok overlay =>
    rw [overlay_eq hparse] at h
    cases h
    exact ⟨overlay, rfl, rfl⟩

theorem distinct_of_parse (h : parse source = .ok overlay) : Toml.DistinctEntries overlay := by
  unfold parse at h
  split at h
  · rename_i t ht
    cases h
    exact Toml.distinct_parse ht
  · cases h

/-- An overlay has nothing at a path, nor anything but tables on the way to it. -/
def Spares (overlay : Table) (path : List String) : Prop :=
  ¬ overlay.Settles path ∧ ¬ ∃ t, overlay.at? path = some (.table t)

theorem at?_overlay_of_spares (hparse : parse source = .ok overlay) (h : Spares overlay path)
    (draft : RuleDraft) : (draft.table.merge overlay).at? path = draft.table.at? path := by
  have hnone : overlay.at? path = none := by
    cases hat : overlay.at? path with
    | none => rfl
    | some v =>
      cases hv : v.isTable with
      | false => exact absurd ⟨path, v, List.prefix_rfl, hat, hv⟩ h.1
      | true =>
        obtain ⟨t, rfl⟩ := Toml.Value.exists_of_isTable hv
        exact absurd ⟨t, hat⟩ h.2
  exact (Table.at?_merge (distinct_of_parse hparse) draft.table path).2.2 h.1 hnone

/-- What stands at a path stays there under all overlays that have no say in it. -/
theorem at?_foldlM_overlay {later : List RuleSource}
    (hfinal : later.foldlM RuleDraft.overlay draft = .ok final)
    (h : ∀ s ∈ later, ∀ t, parse s = .ok t → Spares t path) :
    final.table.at? path = draft.table.at? path := by
  induction later generalizing draft with
  | nil =>
    cases hfinal
    rfl
  | cons s rest ih =>
    rw [List.foldlM_cons] at hfinal
    cases hfirst : draft.overlay s with
    | error e => simp [hfirst, bind, Except.bind] at hfinal
    | ok next =>
      rw [hfirst] at hfinal
      obtain ⟨t, ht, rfl⟩ := overlay_eq_ok hfirst
      rw [List.forall_mem_cons] at h
      rw [ih hfinal h.2]
      exact at?_overlay_of_spares ht (h.1 t ht) draft

/-- Path by path, a draft with an overlay has what the overlay has wherever the overlay settles it,
a table wherever the overlay has one, and elsewhere what the draft had. -/
theorem overlay_by_path (hparse : parse source = .ok overlay) (draft : RuleDraft) :
    ∃ merged, draft.overlay source = .ok merged ∧
      (∀ path,
        (overlay.Settles path → merged.table.at? path = overlay.at? path) ∧
        (¬ overlay.Settles path → (∃ t, overlay.at? path = some (.table t)) →
          ∃ t, merged.table.at? path = some (.table t)) ∧
        (¬ overlay.Settles path → (¬ ∃ t, overlay.at? path = some (.table t)) →
          ∀ v, v.isTable = false →
            (merged.table.at? path = some v ↔ draft.table.at? path = some v))) ∧
      (overlay = [] → merged.table = draft.table) ∧
      merged.overlay source = .ok merged ∧
      (∀ path items, overlay.at? path = some (.array items) →
        merged.table.at? path = some (.array items)) ∧
      ∀ (later : List RuleSource) (final : RuleDraft),
        later.foldlM RuleDraft.overlay merged = .ok final →
        ∀ path v, overlay.at? path = some v → v.isTable = false →
          (∀ s ∈ later, ∀ t, parse s = .ok t → Spares t path) →
          final.table.at? path = some v := by
  have hdistinct := distinct_of_parse hparse
  have hsettled : ∀ path v, overlay.at? path = some v → v.isTable = false →
      (draft.table.merge overlay).at? path = some v := by
    intro path v hat hv
    rw [(Table.at?_merge hdistinct draft.table path).1 ⟨path, v, List.prefix_rfl, hat, hv⟩, hat]
  refine ⟨_, overlay_eq hparse draft, ?_, ?_, ?_, ?_, ?_⟩
  · intro path
    obtain ⟨hleaf, htable, -⟩ := Table.at?_merge hdistinct draft.table path
    refine ⟨hleaf, fun _ ⟨t, ht⟩ => htable t ht, ?_⟩
    intro hnot hno v _
    rw [at?_overlay_of_spares hparse ⟨hnot, hno⟩]
  · intro hempty
    subst hempty
    exact Table.merge_nil draft.table
  · rw [overlay_eq hparse, Table.merge_merge hdistinct]
  · intro path items hat
    exact hsettled path _ hat rfl
  · intro later final hfinal path v hat hv hlater
    rw [at?_foldlM_overlay hfinal hlater]
    exact hsettled path v hat hv

/-- One array of a section is replaced whole, and the rest of the section stays. -/
theorem overlay_by_path_section :
    let draft : RuleDraft := {
      table := [("options", .table [("std_includes", .array [.string "a.h"]),
        ("trim_trailing_whitespace", .boolean true)])]
      source := ⟨"c.toml", ""⟩ }
    let source : RuleSource := ⟨"own.toml", "[options]\nstd_includes = []\n"⟩
    let overlay : Table := [("options", .table [("std_includes", .array [])])]
    parse source = .ok overlay ∧ ∃ merged, draft.overlay source = .ok merged ∧
      merged.table.at? ["options", "std_includes"] = some (.array []) ∧
      merged.table.at? ["options", "trim_trailing_whitespace"] = some (.boolean true) := by
  intro draft source overlay
  have htext : source.text.toList = ['[', 'o', 'p', 't', 'i', 'o', 'n', 's', ']', '\n', 's', 't', 'd',
      '_', 'i', 'n', 'c', 'l', 'u', 'd', 'e', 's', ' ', '=', ' ', '[', ']', '\n'] := by
    simp [source]
  have hparse : parse source = .ok overlay := by
    unfold parse Toml.parse
    rw [htext]
    rfl
  have hoptions : overlay.lookup "options" = some (.table [("std_includes", .array [])]) :=
    List.lookup_cons_self
  have hspares : Spares overlay ["options", "trim_trailing_whitespace"] := by
    have hnone : Table.at? [("std_includes", .array [])] ["trim_trailing_whitespace"] = none :=
      Table.at?_of_none rfl
    refine ⟨fun h => ?_, ?_⟩
    · exact Table.not_settles_of_none rfl ((Table.settles_of_table hoptions).mp h)
    · rw [Table.at?_of_table hoptions, hnone]
      simp
  obtain ⟨merged, hmerged, hpaths, -, -, harrays, -⟩ := overlay_by_path hparse draft
  refine ⟨hparse, merged, hmerged, harrays _ _ rfl, ?_⟩
  exact ((hpaths _).2.2 hspares.1 hspares.2 _ rfl).mpr rfl

end RuleDraft

end SchemaForge
