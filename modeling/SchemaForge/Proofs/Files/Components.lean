import SchemaForge.Proofs.Files.Location

/-! The components of joined paths. A path that neither starts at the root nor names the current
directory adds its components to those of the path it is joined to, so that joining and taking off a
leading path are inverse. A name adds itself, and an empty part adds nothing. -/

namespace SchemaForge

namespace Path

variable {p q : Path} {cs ds : List Char} {name : String}

theorem empty_join (p : Path) : (⟨""⟩ : Path).join p = p := by
  simp [join, joinText]

section Leading

def lead (absolute : Bool) (first : String) : List Component :=
  if absolute then [.root] else if first == "." then [.current] else (component? first).toList

theorem exists_segments (p : Path) : ∃ first rest, p.segments = first :: rest := by
  apply List.exists_cons_of_ne_nil
  simpa [segments] using Text.splitAt_ne_nil

theorem components_eq {first : String} {rest : List String} (h : p.segments = first :: rest) :
    p.components = lead p.isAbsolute first ++ rest.filterMap component? := by
  unfold components
  rw [h]
  rfl

theorem component?_ne {segment : String} {c : Component} (h : component? segment = some c) :
    c ≠ .root ∧ c ≠ .current := by
  unfold component? at h
  split_ifs at h
  · cases h
    decide
  · cases h
    simp

/-- Components that go on from where others lead. -/
def Onward (components : List Component) : Prop :=
  ∀ c ∈ components, c ≠ .root ∧ c ≠ .current

theorem onward_filterMap (segments : List String) : Onward (segments.filterMap component?) := by
  intro c hc
  obtain ⟨segment, -, hsegment⟩ := List.mem_filterMap.mp hc
  exact component?_ne hsegment

theorem Onward.append {before after : List Component} (h : Onward before) (h' : Onward after) :
    Onward (before ++ after) :=
  List.forall_mem_append.mpr ⟨h, h'⟩

theorem onward_names (names : List String) : Onward (names.map .normal) := by
  intro c hc
  obtain ⟨name, -, rfl⟩ := List.mem_map.mp hc
  simp

/-- Onward components are those of all segments, none of which is special by standing first. -/
theorem components_of_onward (h : Onward p.components) :
    p.isAbsolute = false ∧ p.components = p.segments.filterMap component? := by
  obtain ⟨first, rest, hsegments⟩ := p.exists_segments
  rw [components_eq hsegments] at h ⊢
  cases habsolute : p.isAbsolute with
  | true => exact absurd rfl (h .root (by simp [habsolute, lead])).1
  | false =>
    by_cases hfirst : first = "."
    · exact absurd rfl (h .current (by simp [habsolute, lead, hfirst])).2
    · refine ⟨rfl, ?_⟩
      rw [hsegments, List.filterMap_cons, lead, if_neg (by simp), if_neg (by simpa using hfirst)]
      cases component? first <;> rfl

end Leading

section Joining

theorem components_append_slash (h : cs ≠ []) : components ⟨String.ofList (cs ++ '/' :: ds)⟩ =
    components ⟨String.ofList cs⟩ ++ (segments ⟨String.ofList ds⟩).filterMap component? := by
  obtain ⟨first, rest, hsegments⟩ := exists_segments ⟨String.ofList cs⟩
  have hjoined : segments ⟨String.ofList (cs ++ '/' :: ds)⟩ =
      first :: (rest ++ segments ⟨String.ofList ds⟩) := by
    rw [segments_append_slash, hsegments, List.cons_append]
  rw [components_eq hjoined, components_eq hsegments, isAbsolute_append h, List.filterMap_append,
    List.append_assoc]

theorem components_slash (ds : List Char) : components ⟨String.ofList ('/' :: ds)⟩ =
    .root :: (segments ⟨String.ofList ds⟩).filterMap component? := by
  have hsegments : segments ⟨String.ofList ('/' :: ds)⟩ = "" :: segments ⟨String.ofList ds⟩ :=
    @segments_append_slash [] ds
  have habsolute : isAbsolute ⟨String.ofList ('/' :: ds)⟩ = true := by simp [isAbsolute]
  rw [components_eq hsegments, habsolute]
  rfl

theorem components_joinText (hcs : cs ≠ []) (hds : ds.head? ≠ some '/') :
    components ⟨String.ofList (joinText cs ds)⟩ =
      components ⟨String.ofList cs⟩ ++ (segments ⟨String.ofList ds⟩).filterMap component? := by
  have hnone : (segments ⟨String.ofList []⟩).filterMap component? = [] := rfl
  obtain ⟨before, last, rfl⟩ := (List.eq_nil_or_concat cs).resolve_left hcs
  rw [List.concat_eq_append] at hcs ⊢
  by_cases hlast : last = '/'
  -- The slash at the end adds a segment that is no component.
  · subst hlast
    have htext : joinText (before ++ ['/']) ds = before ++ '/' :: ds := by
      simp [joinText, hds]
    rw [htext]
    cases before with
    | nil =>
      rw [List.nil_append, List.nil_append, components_slash, components_slash, hnone]
      rfl
    | cons c rest =>
      rw [components_append_slash (List.cons_ne_nil c rest),
        components_append_slash (List.cons_ne_nil c rest), hnone, List.append_nil]
  · have htext : joinText (before ++ [last]) ds = before ++ [last] ++ '/' :: ds := by
      simp [joinText, hds, hlast]
    rw [htext, components_append_slash hcs]

theorem components_join (h : Onward q.components) :
    (p.join q).components = p.components ++ q.components := by
  obtain ⟨habsolute, hcomponents⟩ := components_of_onward h
  have hhead : q.text.toList.head? ≠ some '/' := by simpa [isAbsolute] using habsolute
  by_cases hp : p.text = ""
  · obtain rfl : p = ⟨""⟩ := congrArg Path.mk hp
    have hnone : components ⟨""⟩ = [] := rfl
    rw [empty_join, hnone, List.nil_append]
  · have hne : p.text.toList ≠ [] := by simpa using hp
    rw [join, components_joinText hne hhead, hcomponents, String.ofList_toList,
      String.ofList_toList]

theorem components_join_names {names : List String} (h : q.components = names.map .normal) :
    (p.join q).components = p.components ++ names.map .normal := by
  rw [components_join (h ▸ onward_names names), h]

theorem join_of_isAbsolute (h : q.isAbsolute = true) : p.join q = q := by
  have hhead : q.text.toList.head? = some '/' := by simpa [isAbsolute] using h
  simp [join, joinText, hhead]

end Joining

section Associating

variable {es : List Char}

end Associating

section Names

instance (name : String) : Decidable (IsName name) :=
  decidable_of_iff (name ≠ "" ∧ (name ≠ "." ∧ name ≠ "..") ∧ '/' ∉ name.toList)
    ⟨fun ⟨h, h', h''⟩ => ⟨h, h', h''⟩, fun ⟨h, h', h''⟩ => ⟨h, h', h''⟩⟩

theorem segments_of_notMem (h : '/' ∉ name.toList) : segments ⟨name⟩ = [name] := by
  simp [segments, Text.splitAt_of_notMem h]

theorem components_of_isName (h : IsName name) : components ⟨name⟩ = [.normal name] := by
  have habsolute : isAbsolute ⟨name⟩ = false := by
    have hhead : name.toList.head? ≠ some '/' := fun hhead => h.noSlash (List.mem_of_head? hhead)
    simpa [isAbsolute] using hhead
  rw [components_eq (segments_of_notMem h.noSlash), habsolute]
  simp [lead, component?, isVoid, h.nonempty, h.noDots]

theorem components_ofParts {parts : List String} (h : ∀ part ∈ parts, part = "" ∨ IsName part) :
    (ofParts parts).components = (parts.filter (· ≠ "")).map .normal := by
  induction parts using List.reverseRecOn with
  | nil => rfl
  | append_singleton before last ih =>
    rw [List.forall_mem_append, List.forall_mem_singleton] at h
    have hjoin : ofParts (before ++ [last]) = (ofParts before).join ⟨last⟩ := by
      rw [ofParts, List.foldl_append, List.foldl_cons, List.foldl_nil, ← ofParts]
    rcases h.2 with rfl | hlast
    · have hnone : components ⟨""⟩ = ([] : List String).map .normal := rfl
      rw [hjoin, components_join_names hnone, ih h.1]
      simp
    · have hone : components ⟨last⟩ = [last].map .normal := components_of_isName hlast
      rw [hjoin, components_join_names hone, ih h.1]
      simp [hlast.nonempty]

theorem eq_of_component? {segment : String} (h : component? segment = some (.normal name)) :
    segment = name ∧ name ≠ "" ∧ name ≠ "." ∧ name ≠ ".." := by
  unfold component? at h
  split_ifs at h with hvoid hparent
  · cases h
  · cases h
    simpa [isVoid, and_assoc] using And.intro hvoid hparent

theorem isName_of_mem_components (h : .normal name ∈ p.components) : IsName name := by
  obtain ⟨segment, hmem, hnormal⟩ : ∃ segment ∈ p.segments,
      component? segment = some (.normal name) := by
    obtain ⟨first, rest, hsegments⟩ := p.exists_segments
    rw [components_eq hsegments, List.mem_append] at h
    rw [hsegments]
    rcases h with h | h
    · unfold lead at h
      split_ifs at h
      · simp at h
      · simp at h
      · exact ⟨first, List.mem_cons_self, Option.mem_toList.mp h⟩
    · obtain ⟨segment, hmem, hnormal⟩ := List.mem_filterMap.mp h
      exact ⟨segment, List.mem_cons_of_mem first hmem, hnormal⟩
  obtain ⟨rfl, hempty, hdot, hdots⟩ := eq_of_component? hnormal
  refine ⟨hempty, ⟨hdot, hdots⟩, ?_⟩
  obtain ⟨piece, hpiece, rfl⟩ := List.mem_map.mp hmem
  rw [String.toList_ofList]
  exact (Text.of_mem_splitAt hpiece).2

end Names

section Starting

theorem onward_of_start {c : Char} (hslash : '/' ∉ cs) (hc : c ∈ cs) (hdot : c ≠ '.') :
    Onward (components ⟨String.ofList (cs ++ ds)⟩) := by
  obtain ⟨first, rest, -, hsplit⟩ := Text.splitAt_append_left ds hslash
  have hsegments : segments ⟨String.ofList (cs ++ ds)⟩ =
      String.ofList (cs ++ first) :: rest.map String.ofList := by
    simp [segments, hsplit]
  have habsolute : isAbsolute ⟨String.ofList (cs ++ ds)⟩ = false := by
    have hhead : cs.head? ≠ some '/' := fun hhead => hslash (List.mem_of_head? hhead)
    rw [isAbsolute_append (List.ne_nil_of_mem hc)]
    simpa [isAbsolute] using hhead
  have hfirst : String.ofList (cs ++ first) ≠ "." := by
    intro hsame
    have hmem : c ∈ ".".toList := by
      rw [← hsame, String.toList_ofList]
      exact List.mem_append_left first hc
    exact hdot (by simpa using hmem)
  rw [components_eq hsegments, habsolute, lead, if_neg (by simp), if_neg (by simpa using hfirst)]
  refine Onward.append (fun d hd => ?_) (onward_filterMap _)
  exact component?_ne (Option.mem_toList.mp hd)

/-- Without dots for segments, a path that does not start at the root holds names only. -/
theorem normal_of_mem_components (habsolute : p.isAbsolute = false)
    (hdots : ∀ segment ∈ p.segments, segment ≠ "." ∧ segment ≠ "..") {c : Component}
    (hc : c ∈ p.components) : ∃ name, c = .normal name := by
  have hnormal {segment : String} (hsegment : segment ∈ p.segments)
      (hcomponent : component? segment = some c) : ∃ name, c = .normal name := by
    unfold component? at hcomponent
    split_ifs at hcomponent with hvoid hparent
    · exact absurd (by simpa using hparent) (hdots segment hsegment).2
    · exact ⟨segment, (Option.some.inj hcomponent).symm⟩
  obtain ⟨first, rest, hsegments⟩ := p.exists_segments
  rw [hsegments] at hnormal hdots
  rw [components_eq hsegments, habsolute, lead, if_neg (by simp),
    if_neg (by simpa using (hdots first List.mem_cons_self).1)] at hc
  rcases List.mem_append.mp hc with hc | hc
  · exact hnormal List.mem_cons_self (Option.mem_toList.mp hc)
  · obtain ⟨segment, hsegment, hcomponent⟩ := List.mem_filterMap.mp hc
    exact hnormal (List.mem_cons_of_mem first hsegment) hcomponent

end Starting

section Taking

theorem relativeTo?_eq_some_iff {base : Path} {rest : List Component} :
    p.relativeTo? base = some rest ↔ p.components = base.components ++ rest := by
  unfold relativeTo?
  split_ifs with h
  · obtain ⟨after, hafter⟩ := List.isPrefixOf_iff_prefix.mp h
    rw [← hafter]
    simp [eq_comm]
  · constructor
    · intro hnone
      cases hnone
    · intro hrest
      exact absurd (List.isPrefixOf_iff_prefix.mpr ⟨rest, hrest.symm⟩) h

end Taking

end Path

end SchemaForge
