import SchemaForge.FileSystem
import SchemaForge.Proofs.Text.Dotted

/-! Where paths lead. A path leads to the same location in every file system in which it can be
followed from the same directory. Joined names lead below where the path before them leads, and
different names to different locations. -/

namespace SchemaForge.Path

variable {parts : List String} {p q : Path}

structure IsName (name : String) : Prop where
  nonempty : name ≠ ""
  noDots : name ≠ "." ∧ name ≠ ".."
  noSlash : '/' ∉ name.toList

theorem IsName.of_mem {name : String} {c : Char} (hc : c ∈ name.toList) (hdot : c ≠ '.')
    (hslash : '/' ∉ name.toList) : IsName name := by
  refine ⟨?_, ⟨?_, ?_⟩, hslash⟩
  · rintro rfl
    simp at hc
  · rintro rfl
    simp [hdot] at hc
  · rintro rfl
    simp [hdot] at hc

section Joining

theorem joinText_of_name {cs name : List Char} (hcs : cs ≠ []) (hlast : cs.getLast? ≠ some '/')
    (hname : name.head? ≠ some '/') : joinText cs name = cs ++ '/' :: name := by
  simp [joinText, hcs, hlast, hname]

theorem joinWith_concat {sep : Char} {pieces : List (List Char)} (h : pieces ≠ [])
    (last : List Char) :
    Text.joinWith [sep] (pieces ++ [last]) = Text.joinWith [sep] pieces ++ sep :: last :=
  Text.joinWith_append h (List.cons_ne_nil last [])

theorem getLast?_joinWith (hne : parts ≠ []) (h : ∀ part ∈ parts, IsName part) :
    ∃ c, c ≠ '/' ∧ (Text.joinWith ['/'] (parts.map String.toList)).getLast? = some c := by
  induction parts using List.reverseRecOn with
  | nil => exact absurd rfl hne
  | append_singleton before last _ =>
    have hlast : IsName last := h last (by simp)
    obtain ⟨c, hc⟩ : ∃ c, last.toList.getLast? = some c := by
      rw [← Option.isSome_iff_exists, List.getLast?_isSome]
      exact fun hnil => hlast.nonempty (String.toList_eq_nil_iff.mp hnil)
    refine ⟨c, fun hslash => hlast.noSlash (hslash ▸ List.mem_of_getLast? hc), ?_⟩
    cases before with
    | nil => exact hc
    | cons first rest =>
      rw [List.map_append, List.map_singleton, joinWith_concat (by simp), List.getLast?_append]
      simp [List.getLast?_cons, hc]

theorem toList_text_ofParts (h : ∀ part ∈ parts, IsName part) :
    (ofParts parts).text.toList = Text.joinWith ['/'] (parts.map String.toList) := by
  induction parts using List.reverseRecOn with
  | nil => rfl
  | append_singleton before last ih =>
    rw [List.forall_mem_append, List.forall_mem_singleton] at h
    have hhead : last.toList.head? ≠ some '/' := fun hhead => h.2.noSlash (List.mem_of_head? hhead)
    rw [ofParts, List.foldl_append, List.foldl_cons, List.foldl_nil, ← ofParts, join,
      String.toList_ofList, ih h.1, List.map_append, List.map_singleton]
    cases before with
    | nil => simp [joinText, Text.joinWith, hhead]
    | cons first rest =>
      obtain ⟨c, hc, hlast⟩ := getLast?_joinWith (List.cons_ne_nil first rest) h.1
      have hne : Text.joinWith ['/'] ((first :: rest).map String.toList) ≠ [] := by
        intro hnil
        rw [hnil] at hlast
        cases hlast
      have hslash : some c ≠ some '/' := fun heq => hc (Option.some.inj heq)
      rw [joinText_of_name hne (hlast ▸ hslash) hhead, joinWith_concat (by simp)]

theorem segments_ofParts (hne : parts ≠ []) (h : ∀ part ∈ parts, IsName part) :
    (ofParts parts).segments = parts := by
  rw [segments, toList_text_ofParts h, Text.splitAt_joinWith (by simpa using hne)]
  · simp [Function.comp_def]
  · intro piece hpiece
    obtain ⟨part, hpart, rfl⟩ := List.mem_map.mp hpiece
    exact (h part hpart).noSlash

theorem segments_of_isAbsolute (h : p.isAbsolute = true) : ∃ rest, p.segments = "" :: rest := by
  have hhead : p.text.toList.head? = some '/' := by simpa [isAbsolute] using h
  obtain ⟨rest, hrest⟩ := List.head?_eq_some_iff.mp hhead
  refine ⟨(Text.splitAt '/' rest).map String.ofList, ?_⟩
  rw [segments, hrest]
  simp [Text.splitAt]

theorem isAbsolute_ofParts (h : ∀ part ∈ parts, IsName part) :
    (ofParts parts).isAbsolute = false := by
  cases parts with
  | nil => rfl
  | cons first rest =>
    by_contra habsolute
    obtain ⟨more, hmore⟩ := segments_of_isAbsolute (Bool.not_eq_false _ ▸ habsolute)
    rw [segments_ofParts (List.cons_ne_nil first rest) h] at hmore
    cases hmore
    exact (h "" List.mem_cons_self).nonempty rfl

end Joining

section Locating

def advance (loc : Location) (segment : String) : Location :=
  if isVoid segment then loc else if segment = ".." then loc.dropLast else loc ++ [segment]

def locate (cwd : Location) (p : Path) : Location :=
  p.segments.foldl advance (if p.isAbsolute then [] else cwd)

theorem advance_of_isName {name : String} (h : IsName name) (loc : Location) :
    advance loc name = loc ++ [name] := by
  simp [advance, isVoid, h.nonempty, h.noDots]

theorem foldl_advance (h : ∀ part ∈ parts, IsName part) (loc : Location) :
    parts.foldl advance loc = loc ++ parts := by
  induction parts generalizing loc with
  | nil => simp
  | cons part rest ih =>
    rw [List.forall_mem_cons] at h
    rw [List.foldl_cons, advance_of_isName h.1, ih h.2, List.append_assoc, List.singleton_append]

theorem segments_append_slash {cs ds : List Char} :
    segments ⟨String.ofList (cs ++ '/' :: ds)⟩ = segments ⟨String.ofList cs⟩ ++
      segments ⟨String.ofList ds⟩ := by
  simp [segments, Text.splitAt_append_sep]

theorem isAbsolute_append {cs ds : List Char} (h : cs ≠ []) :
    isAbsolute ⟨String.ofList (cs ++ ds)⟩ = isAbsolute ⟨String.ofList cs⟩ := by
  simp [isAbsolute, List.head?_append_of_ne_nil _ h]

theorem locate_joinText {cs ds : List Char} (h : ds.head? ≠ some '/') (cwd : Location) :
    locate cwd ⟨String.ofList (joinText cs ds)⟩ =
      (segments ⟨String.ofList ds⟩).foldl advance (locate cwd ⟨String.ofList cs⟩) := by
  rw [joinText, if_neg h]
  rcases List.eq_nil_or_concat cs with rfl | ⟨before, last, rfl⟩
  · have hstart : locate cwd ⟨String.ofList []⟩ = cwd := rfl
    have hrelative : isAbsolute ⟨String.ofList ds⟩ = false := by simp [isAbsolute, h]
    rw [if_pos (by simp), List.nil_append, hstart, locate, hrelative]
    rfl
  · rw [List.concat_eq_append]
    have hne : before ++ [last] ≠ [] := by simp
    by_cases hlast : last = '/'
    -- The slash at the end ends no segment that counts.
    · subst hlast
      have htext : before ++ ['/'] ++ ds = before ++ '/' :: ds := by simp
      rw [if_pos (by simp), locate, isAbsolute_append hne, htext, segments_append_slash, locate,
        segments_append_slash, List.foldl_append, List.foldl_append]
      rfl
    · rw [if_neg (by simp [hlast]), locate, isAbsolute_append hne, segments_append_slash,
        List.foldl_append, locate]

theorem locate_join (h : q.isAbsolute = false) (cwd : Location) :
    locate cwd (p.join q) = q.segments.foldl advance (locate cwd p) := by
  have hhead : q.text.toList.head? ≠ some '/' := by simpa [isAbsolute] using h
  rw [join, locate_joinText hhead, String.ofList_toList, String.ofList_toList]

theorem locate_join_ofParts (hne : parts ≠ []) (h : ∀ part ∈ parts, IsName part) (cwd : Location) :
    locate cwd (p.join (ofParts parts)) = locate cwd p ++ parts := by
  rw [locate_join (isAbsolute_ofParts h), segments_ofParts hne h, foldl_advance h]

end Locating

end SchemaForge.Path
