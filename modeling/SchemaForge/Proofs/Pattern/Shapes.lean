import SchemaForge.Proofs.Pattern.Meaning

/-! Patterns that reserve the names with a certain start. They come in a few shapes: a stem and one
more character, or a start and an end with anything in between. For each shape it is said in terms
of texts what its pattern matches. -/

namespace SchemaForge.Pattern

variable {p q : Pattern} {P : Place → Prop} {i : Place} {text : List Char}

def LeadsTo (p : Pattern) (P : Place → Prop) (i : Place) : Prop :=
  ∃ j, Leads p i j ∧ P j

theorem matchesAt_iff_leadsTo : MatchesAt p i ↔ LeadsTo p (fun _ => True) i := by
  simp [MatchesAt, LeadsTo]

section LeadsTo

theorem leadsTo_empty : LeadsTo empty P i ↔ P i := by
  simp [LeadsTo, Leads]

theorem leadsTo_one {cls : CharClass} : LeadsTo (one cls) P i ↔
    ∃ c rest, i.ahead = c :: rest ∧ cls.contains c = true ∧ P ⟨some c, rest⟩ := by
  constructor
  · rintro ⟨⟨_, rest⟩, ⟨c, hahead, rfl, hc⟩, hP⟩
    exact ⟨c, rest, hahead, hc, hP⟩
  · rintro ⟨c, rest, hahead, hc, hP⟩
    exact ⟨⟨some c, rest⟩, ⟨c, hahead, rfl, hc⟩, hP⟩

theorem leadsTo_single {c : Char} : LeadsTo (one (.single c)) P i ↔
    ∃ rest, i.ahead = c :: rest ∧ P ⟨some c, rest⟩ := by
  simp [leadsTo_one]

theorem leadsTo_textStart {letters : CharClass} :
    LeadsTo (look .textStart letters) P i ↔ i.before = none ∧ P i := by
  simp [LeadsTo, Leads, Look.holds, and_assoc]

theorem leadsTo_textEnd {letters : CharClass} :
    LeadsTo (look .textEnd letters) P i ↔ i.ahead = [] ∧ P i := by
  simp [LeadsTo, Leads, Look.holds, and_assoc]

theorem leadsTo_seq : LeadsTo (seq p q) P i ↔ LeadsTo p (LeadsTo q P) i := by
  constructor
  · rintro ⟨j, ⟨k, hik, hkj⟩, hP⟩
    exact ⟨k, hik, j, hkj, hP⟩
  · rintro ⟨k, hik, j, hkj, hP⟩
    exact ⟨j, ⟨k, hik, hkj⟩, hP⟩

theorem leadsTo_alt : LeadsTo (alt p q) P i ↔ LeadsTo p P i ∨ LeadsTo q P i := by
  simp [LeadsTo, Leads, or_and_right, exists_or]

theorem leadsTo_optional : LeadsTo (repeated p 0 (some 1)) P i ↔ P i ∨ LeadsTo p P i := by
  constructor
  · rintro ⟨j, ⟨n, -, hmost, htimes⟩, hP⟩
    match n, hmost 1 rfl, htimes with
    | 0, _, hstay =>
      cases hstay
      exact Or.inl hP
    | 1, _, ⟨k, hik, hstay⟩ =>
      cases hstay
      exact Or.inr ⟨j, hik, hP⟩
  · rintro (hP | ⟨j, hij, hP⟩)
    · exact ⟨i, ⟨0, by simp, by simp, rfl⟩, hP⟩
    · exact ⟨j, ⟨1, by simp, by simp, j, hij, rfl⟩, hP⟩

def Place.past (i : Place) (word rest : List Char) : Place :=
  ⟨word.getLast?.or i.before, rest⟩

theorem Place.past_nil : i.past [] i.ahead = i := rfl

theorem Place.past_cons {c : Char} {word rest ahead : List Char} :
    i.past (c :: word) rest = Place.past ⟨some c, ahead⟩ word rest := by
  cases word <;> simp [past, List.getLast?_cons]

theorem times_one {cls : CharClass} {n : Nat} {j : Place} : Times (Leads (one cls)) n i j ↔
    ∃ word rest, word.length = n ∧ i.ahead = word ++ rest ∧
      (∀ c ∈ word, cls.contains c = true) ∧ j = i.past word rest := by
  induction n generalizing i with
  | zero =>
    constructor
    · rintro rfl
      exact ⟨[], j.ahead, rfl, rfl, by simp, rfl⟩
    · rintro ⟨word, rest, hlength, hahead, -, rfl⟩
      obtain rfl := List.length_eq_zero_iff.mp hlength
      obtain rfl : i.ahead = rest := hahead
      exact i.past_nil
  | succ n ih =>
    constructor
    · rintro ⟨⟨_, ahead⟩, ⟨c, hahead, rfl, hc⟩, htimes⟩
      obtain ⟨word, rest, rfl, rfl, hword, rfl⟩ := ih.mp htimes
      exact ⟨c :: word, rest, rfl, hahead, List.forall_mem_cons.mpr ⟨hc, hword⟩,
        Place.past_cons.symm⟩
    · rintro ⟨word, rest, hlength, hahead, hword, rfl⟩
      match word with
      | c :: word =>
        rw [List.forall_mem_cons] at hword
        exact ⟨⟨some c, word ++ rest⟩, ⟨c, hahead, rfl, hword.1⟩,
          ih.mpr ⟨word, rest, Nat.succ.inj hlength, rfl, hword.2, Place.past_cons⟩⟩

theorem leadsTo_repeated_one {cls : CharClass} {least : Nat} :
    LeadsTo (repeated (one cls) least none) P i ↔ ∃ word rest, least ≤ word.length ∧
      i.ahead = word ++ rest ∧ (∀ c ∈ word, cls.contains c = true) ∧ P (i.past word rest) := by
  constructor
  · rintro ⟨j, ⟨n, hleast, -, htimes⟩, hP⟩
    obtain ⟨word, rest, rfl, hahead, hword, rfl⟩ := times_one.mp htimes
    exact ⟨word, rest, hleast, hahead, hword, hP⟩
  · rintro ⟨word, rest, hleast, hahead, hword, hP⟩
    exact ⟨_, ⟨word.length, hleast, by simp, times_one.mpr ⟨word, rest, rfl, hahead, hword, rfl⟩⟩,
      hP⟩

end LeadsTo

section Words

def spell (word : List Char) (p : Pattern) : Pattern :=
  word.foldr (fun c p => seq (one (.single c)) p) p

def spelled : List Char → Pattern
  | [] => empty
  | [c] => one (.single c)
  | c :: rest => seq (one (.single c)) (spelled rest)

def anyOf : List (List Char) → Pattern
  | [] => never
  | [word] => spelled word
  | word :: rest => alt (spelled word) (anyOf rest)

theorem leadsTo_spell {word : List Char} : LeadsTo (spell word p) P i ↔
    ∃ rest, i.ahead = word ++ rest ∧ LeadsTo p P (i.past word rest) := by
  induction word generalizing i with
  | nil => simp [spell, Place.past]
  | cons c word ih =>
    change LeadsTo (seq _ (spell word p)) P i ↔ _
    simp only [leadsTo_seq, leadsTo_single, ih]
    constructor
    · rintro ⟨ahead, hahead, rest, rfl, hleads⟩
      exact ⟨rest, hahead, Place.past_cons ▸ hleads⟩
    · rintro ⟨rest, hahead, hleads⟩
      exact ⟨word ++ rest, hahead, rest, rfl, Place.past_cons ▸ hleads⟩

theorem leadsTo_spelled {word : List Char} : LeadsTo (spelled word) P i ↔
    ∃ rest, i.ahead = word ++ rest ∧ P (i.past word rest) := by
  fun_induction spelled word generalizing i with
  | case1 => simp [leadsTo_empty, Place.past]
  | case2 c => simp [leadsTo_single, Place.past]
  | case3 c word _ ih =>
    simp only [leadsTo_seq, leadsTo_single, ih]
    constructor
    · rintro ⟨ahead, hahead, rest, rfl, hP⟩
      exact ⟨rest, hahead, Place.past_cons ▸ hP⟩
    · rintro ⟨rest, hahead, hP⟩
      exact ⟨word ++ rest, hahead, rest, rfl, Place.past_cons ▸ hP⟩

theorem leadsTo_anyOf {words : List (List Char)} : LeadsTo (anyOf words) P i ↔
    ∃ word ∈ words, ∃ rest, i.ahead = word ++ rest ∧ P (i.past word rest) := by
  fun_induction anyOf words with
  | case1 => simp [LeadsTo, Leads]
  | case2 word => simp [leadsTo_spelled]
  | case3 word words _ ih => simp [leadsTo_alt, leadsTo_spelled, ih]

theorem wellFormed_spell {word : List Char} (hp : p.WellFormed) : (spell word p).WellFormed := by
  induction word with
  | nil => exact hp
  | cons c word ih => exact ⟨trivial, ih⟩

theorem wellFormed_spelled {word : List Char} : (spelled word).WellFormed := by
  fun_induction spelled word with
  | case1 => trivial
  | case2 c => trivial
  | case3 c word _ ih => exact ⟨trivial, ih⟩

theorem wellFormed_anyOf {words : List (List Char)} : (anyOf words).WellFormed := by
  fun_induction anyOf words with
  | case1 => trivial
  | case2 word => exact wellFormed_spelled
  | case3 word words _ ih => exact ⟨wellFormed_spelled, ih⟩

end Words

/-- A pattern bound to the start of the text, once for its own caret and once for the one it gets. -/
def atStart (p : Pattern) : Pattern :=
  seq (look .textStart .word) (seq (look .textStart .word) p)

theorem isMatch_atStart (hp : p.WellFormed) :
    (atStart p).isMatch text = true ↔ MatchesAt p ⟨none, text⟩ := by
  have hwell : (atStart p).WellFormed := ⟨trivial, trivial, hp⟩
  rw [isMatch_iff hwell]
  simp only [matchesAt_iff_leadsTo, atStart, leadsTo_seq, leadsTo_textStart,
    List.getLast?_eq_none_iff]
  constructor
  · rintro ⟨pre, suf, rfl, rfl, -, hleads⟩
    exact hleads
  · intro hleads
    exact ⟨[], text, rfl, rfl, rfl, hleads⟩

section Enclosed

def enclosed (word : List Char) (cls : CharClass) : Pattern :=
  spell word (seq (repeated (one cls) 1 none) (spell word (look .textEnd .word)))

theorem wellFormed_enclosed {word : List Char} {cls : CharClass} :
    (enclosed word cls).WellFormed :=
  wellFormed_spell ⟨⟨trivial, by simp⟩, wellFormed_spell trivial⟩

theorem isMatch_enclosed {word : List Char} {cls : CharClass} :
    (atStart (enclosed word cls)).isMatch text = true ↔ ∃ mid, mid ≠ [] ∧
      (∀ c ∈ mid, cls.contains c = true) ∧ text = word ++ (mid ++ word) := by
  rw [isMatch_atStart wellFormed_enclosed, matchesAt_iff_leadsTo, enclosed]
  simp only [leadsTo_spell, leadsTo_seq, leadsTo_repeated_one, leadsTo_textEnd]
  constructor
  · rintro ⟨_, rfl, mid, _, hlength, rfl, hmid, rest, rfl, rfl, -⟩
    exact ⟨mid, List.ne_nil_of_length_pos hlength, hmid, by simp⟩
  · rintro ⟨mid, hne, hmid, rfl⟩
    refine ⟨_, rfl, mid, word, List.length_pos_iff.mpr hne, rfl, hmid, [], ?_, rfl, trivial⟩
    exact (List.append_nil word).symm

end Enclosed

section Shapes

def nameChars : CharClass :=
  .union (.range 'a' 'z') (.union (.range 'A' 'Z') (.union (.single '_')
    (.union (.range '0' '9') .none)))

inductive Shape where
  /-- `word[next]` -/
  | stem (word : List Char) (next : CharClass)
  /-- `(word|word)[next]` -/
  | stems (words : List (List Char)) (next : CharClass)
  /-- `word[next]+` -/
  | run (word : List Char) (next : CharClass)
  /-- `word_?[next]` -/
  | joined (word : List Char) (next : CharClass)
  /-- `c?word[name]*_(last|last)` -/
  | between (c : Char) (word : List Char) (lasts : List (List Char))

inductive Tail where
  | next (cls : CharClass)
  | ending (lasts : List (List Char))

def Tail.Meets : Tail → List Char → Prop
  | next cls, text => ∃ c rest, text = c :: rest ∧ cls.contains c = true
  | ending lasts, text => ∃ mid, ∃ last ∈ lasts, ∃ rest,
      text = mid ++ '_' :: (last ++ rest) ∧ ∀ c ∈ mid, nameChars.contains c = true

def Tail.takes (c : Char) : Tail → Bool
  | next cls => cls.contains c
  | ending _ => false

def Tail.lasts : Tail → List (List Char)
  | next _ => []
  | ending lasts => lasts

theorem Tail.Meets.takes {tail : Tail} {c : Char} (h : tail.Meets (c :: text))
    (hlasts : tail.lasts = []) : tail.takes c = true := by
  cases tail with
  | next cls =>
    obtain ⟨d, rest, htext, hd⟩ := h
    cases htext
    exact hd
  | ending lasts =>
    obtain ⟨mid, last, hlast, -⟩ := h
    rw [show lasts = [] from hlasts] at hlast
    cases hlast

theorem Tail.meets_of_takes {tail : Tail} {c : Char} (h : tail.takes c = true) :
    tail.Meets (c :: text) := by
  cases tail with
  | next cls => exact ⟨c, text, rfl, h⟩
  | ending lasts => cases h

namespace Shape

def body : Shape → Pattern
  | stem word next => spell word (one next)
  | stems words next => seq (anyOf words) (one next)
  | run word next => spell word (repeated (one next) 1 none)
  | joined word next => spell word (seq (repeated (one (.single '_')) 0 (some 1)) (one next))
  | between c word lasts =>
    seq (repeated (one (.single c)) 0 (some 1))
      (spell word (seq (repeated (one nameChars) 0 none) (spell ['_'] (anyOf lasts))))

def starts : Shape → List (List Char)
  | stem word _ => [word]
  | stems words _ => words
  | run word _ => [word]
  | joined word _ => [word, word ++ ['_']]
  | between c word _ => [word, c :: word]

def tail : Shape → Tail
  | stem _ next => .next next
  | stems _ next => .next next
  | run _ next => .next next
  | joined _ next => .next next
  | between _ _ lasts => .ending lasts

def Meets (shape : Shape) (text : List Char) : Prop :=
  ∃ start ∈ shape.starts, ∃ rest, text = start ++ rest ∧ shape.tail.Meets rest

theorem wellFormed_body (shape : Shape) : shape.body.WellFormed := by
  cases shape with
  | stem word next => exact wellFormed_spell trivial
  | stems words next => exact ⟨wellFormed_anyOf, trivial⟩
  | run word next => exact wellFormed_spell ⟨trivial, by simp⟩
  | joined word next => exact wellFormed_spell ⟨⟨trivial, by simp⟩, trivial⟩
  | between c word lasts =>
    exact ⟨⟨trivial, by simp⟩,
      wellFormed_spell ⟨⟨trivial, by simp⟩, wellFormed_spell wellFormed_anyOf⟩⟩

theorem leadsTo_run {next : CharClass} : LeadsTo (repeated (one next) 1 none) (fun _ => True) i ↔
    (Tail.next next).Meets i.ahead := by
  rw [leadsTo_repeated_one]
  constructor
  · rintro ⟨word, rest, hlength, hahead, hword, -⟩
    match word with
    | c :: word => exact ⟨c, word ++ rest, hahead, hword c List.mem_cons_self⟩
  · rintro ⟨c, rest, hahead, hc⟩
    exact ⟨[c], rest, Nat.le_refl 1, hahead, by simpa using hc, trivial⟩

theorem leadsTo_next {next : CharClass} : LeadsTo (one next) (fun _ => True) i ↔
    (Tail.next next).Meets i.ahead := by
  simp [leadsTo_one, Tail.Meets]

theorem leadsTo_ending {lasts : List (List Char)} :
    LeadsTo (seq (repeated (one nameChars) 0 none) (spell ['_'] (anyOf lasts))) (fun _ => True) i ↔
      (Tail.ending lasts).Meets i.ahead := by
  simp only [leadsTo_seq, leadsTo_repeated_one, leadsTo_spell, leadsTo_anyOf]
  constructor
  · rintro ⟨mid, _, -, hahead, hmid, _, rfl, last, hlast, rest, rfl, -⟩
    exact ⟨mid, last, hlast, rest, hahead, hmid⟩
  · rintro ⟨mid, last, hlast, rest, hahead, hmid⟩
    exact ⟨mid, _, Nat.zero_le _, hahead, hmid, _, rfl, last, hlast, rest, rfl, trivial⟩

theorem matchesAt_body_iff (shape : Shape) : MatchesAt shape.body i ↔ shape.Meets i.ahead := by
  rw [matchesAt_iff_leadsTo]
  cases shape with
  | stem word next => simp [body, Meets, starts, tail, leadsTo_spell, leadsTo_next, Place.past]
  | stems words next =>
    simp [body, Meets, starts, tail, leadsTo_seq, leadsTo_anyOf, leadsTo_next, Place.past]
  | run word next => simp [body, Meets, starts, tail, leadsTo_spell, leadsTo_run, Place.past]
  | joined word next =>
    simp only [body, Meets, starts, tail, leadsTo_spell, leadsTo_seq, leadsTo_optional,
      leadsTo_single, leadsTo_next, List.mem_cons, List.not_mem_nil, or_false, exists_eq_or_imp,
      exists_eq_left, and_or_left, exists_or, List.append_assoc, List.singleton_append]
    refine or_congr Iff.rfl ⟨?_, ?_⟩
    · rintro ⟨_, hahead, rest, rfl, htail⟩
      exact ⟨rest, hahead, htail⟩
    · rintro ⟨rest, hahead, htail⟩
      exact ⟨_, hahead, rest, rfl, htail⟩
  | between c word lasts =>
    rw [body, leadsTo_seq, leadsTo_optional, leadsTo_single]
    simp only [Meets, starts, tail, leadsTo_spell, leadsTo_ending, List.mem_cons, List.not_mem_nil,
      or_false, exists_eq_or_imp, exists_eq_left, List.cons_append]
    refine or_congr Iff.rfl ⟨?_, ?_⟩
    · rintro ⟨_, hahead, rest, rfl, htail⟩
      exact ⟨rest, hahead, htail⟩
    · rintro ⟨rest, hahead, htail⟩
      exact ⟨_, hahead, rest, rfl, htail⟩

theorem isMatch_iff_meets (shape : Shape) :
    (atStart shape.body).isMatch text = true ↔ shape.Meets text :=
  (isMatch_atStart shape.wellFormed_body).trans shape.matchesAt_body_iff

end Shape

end Shapes

end SchemaForge.Pattern
