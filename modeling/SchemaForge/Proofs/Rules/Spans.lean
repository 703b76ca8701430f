import SchemaForge.Proofs.Text.Boundaries
import SchemaForge.Rules.Span

/-! Where a fault points in the text of a rule table. Offsets count bytes, so the spans are
described on the bytes of the text: which bytes a span covers, which stand before and after it, and
that no such place comes earlier. The search goes over characters and meets the same places. -/

namespace SchemaForge.Span

/-! The first place of a needle among characters. -/

theorem before?_eq_some {needle text lead : List Char} (h : before? needle text = some lead) :
    lead ++ needle <+: text ∧ ∀ other, other ++ needle <+: text → lead <+: other := by
  fun_induction before? needle text generalizing lead with
  | case1 hempty =>
    obtain rfl := Option.some.inj h
    rw [List.isEmpty_iff.mp hempty]
    exact ⟨List.prefix_rfl, fun other _ => List.nil_prefix⟩
  | case2 hne => cases h
  | case3 c rest hprefix =>
    obtain rfl := Option.some.inj h
    exact ⟨List.isPrefixOf_iff_prefix.mp hprefix, fun other _ => List.nil_prefix⟩
  | case4 c rest hprefix ih =>
    obtain ⟨begun, hbegun, rfl⟩ := Option.map_eq_some_iff.mp h
    obtain ⟨hstands, hfirst⟩ := ih hbegun
    refine ⟨List.cons_prefix_cons.mpr ⟨rfl, hstands⟩, ?_⟩
    rintro (_ | ⟨d, other⟩) hother
    · exact absurd (List.isPrefixOf_iff_prefix.mpr hother) hprefix
    · obtain ⟨hsame, hlater⟩ := List.cons_prefix_cons.mp hother
      exact List.cons_prefix_cons.mpr ⟨hsame.symm, hfirst other hlater⟩

theorem before?_eq_none_iff {needle text : List Char} :
    before? needle text = none ↔ ∀ lead, ¬ lead ++ needle <+: text := by
  constructor
  · intro h lead hlead
    fun_induction before? needle text generalizing lead with
    | case1 hempty => cases h
    | case2 hne =>
      have hnil := (List.append_eq_nil_iff.mp (List.prefix_nil.mp hlead)).2
      exact hne (List.isEmpty_iff.mpr hnil)
    | case3 c rest hprefix => cases h
    | case4 c rest hprefix ih =>
      rcases lead with _ | ⟨d, lead⟩
      · exact hprefix (List.isPrefixOf_iff_prefix.mpr hlead)
      · exact ih (Option.map_eq_none_iff.mp h) lead (List.cons_prefix_cons.mp hlead).2
  · intro h
    cases hbefore : before? needle text with
    | none => rfl
    | some lead => exact absurd (before?_eq_some hbefore).1 (h lead)

/-! Quoted places among bytes. -/

/-- The span covers `body` in the bytes, between two marks. -/
structure Quotes (span : Span) (bytes : List UInt8) (mark : Char) (body : List UInt8) : Prop where
  inside : span.offset + span.length < bytes.length
  opened : 0 < span.offset ∧ bytes[span.offset - 1]? = some mark.toUInt8
  covered : (bytes.drop span.offset).take span.length = body
  closed : bytes[span.offset + span.length]? = some mark.toUInt8

def Absent (bytes : List UInt8) (mark : Char) (body : List UInt8) : Prop :=
  ∀ span : Span, ¬ span.Quotes bytes mark body

def First (span : Span) (bytes : List UInt8) (mark : Char) (body : List UInt8) : Prop :=
  span.Quotes bytes mark body ∧
    ∀ other : Span, other.Quotes bytes mark body → span.offset ≤ other.offset

theorem quotes_append (lead body rest : List UInt8) (mark : Char) :
    (⟨lead.length + 1, body.length⟩ : Span).Quotes
      (lead ++ mark.toUInt8 :: (body ++ mark.toUInt8 :: rest)) mark body where
  inside := by
    simp only [List.length_append, List.length_cons]
    omega
  opened := by simp
  covered := by simp
  closed := by
    have hskip : lead.length + 1 + body.length - lead.length = body.length + 1 := by omega
    rw [List.getElem?_append_right (by dsimp only; omega)]
    simp [hskip]

namespace Quotes

variable {span : Span} {bytes body : List UInt8} {mark : Char}

theorem length_eq (h : span.Quotes bytes mark body) : span.length = body.length := by
  have hinside := h.inside
  rw [← h.covered, List.length_take, List.length_drop]
  omega

theorem drop_eq (h : span.Quotes bytes mark body) :
    bytes.drop (span.offset - 1) =
      mark.toUInt8 :: (body ++ mark.toUInt8 :: bytes.drop (span.offset + span.length + 1)) := by
  obtain ⟨hpositive, hopened⟩ := h.opened
  obtain ⟨hbefore, hopened⟩ := List.getElem?_eq_some_iff.mp hopened
  obtain ⟨hafter, hclosed⟩ := List.getElem?_eq_some_iff.mp h.closed
  have hnext : span.offset - 1 + 1 = span.offset := by omega
  have hbody : bytes.drop span.offset = body ++ bytes.drop (span.offset + span.length) := by
    conv_lhs => rw [← List.take_append_drop span.length (bytes.drop span.offset)]
    rw [h.covered, List.drop_drop]
  rw [List.drop_eq_getElem_cons hbefore, hopened, hnext, hbody,
    List.drop_eq_getElem_cons hafter, hclosed]

end Quotes

theorem First.unique {span other : Span} {bytes body : List UInt8} {mark : Char}
    (h : span.First bytes mark body) (h' : other.First bytes mark body) : span = other := by
  have hoffset : span.offset = other.offset := Nat.le_antisymm (h.2 other h'.1) (h'.2 span h.1)
  have hlength : span.length = other.length := h.1.length_eq.trans h'.1.length_eq.symm
  cases span
  cases other
  exact congrArg₂ Span.mk hoffset hlength

/-! The search over characters finds the places among bytes. -/

theorem byteSize_eq (cs : List Char) : byteSize cs = (Utf8.encode cs).length := by
  induction cs with
  | nil => rfl
  | cons c rest ih =>
    rw [Utf8.encode_cons, List.length_append, Utf8.length_encodeChar, ← ih]
    rfl

section

variable {text body : List Char} {mark : Char} {span : Span}

theorem encode_form (hmark : mark.toNat < 0x80) (body : List Char) :
    Utf8.encode (mark :: body ++ [mark]) =
      mark.toUInt8 :: (Utf8.encode body ++ [mark.toUInt8]) := by
  simp only [List.cons_append, Utf8.encode_cons, Utf8.encode_append, Utf8.encode_nil,
    Utf8.encodeChar_of_ascii hmark, List.append_nil, List.nil_append]

/-- A quoted form stands among the bytes just where it stands among the characters: its mark is an
ASCII byte, so a character begins there. -/
theorem quotes_encode_iff (hmark : mark.toNat < 0x80) :
    span.Quotes (Utf8.encode text) mark (Utf8.encode body) ↔
      ∃ lead, lead ++ (mark :: body ++ [mark]) <+: text ∧
        span = ⟨byteSize lead + 1, byteSize body⟩ := by
  constructor
  · intro h
    have hascii : mark.toUInt8.toNat < 0x80 := by
      have hmod : mark.toUInt8.toNat = mark.toNat % 256 := rfl
      omega
    obtain ⟨lead, rest, rfl, hlead⟩ := Utf8.exists_of_ascii_byte h.opened.2 hascii
    have hform : Utf8.encode (mark :: body ++ [mark]) <+: Utf8.encode rest := by
      refine ⟨(Utf8.encode (lead ++ rest)).drop (span.offset + span.length + 1), ?_⟩
      rw [encode_form hmark, List.cons_append, List.append_assoc, List.singleton_append,
        ← h.drop_eq, Utf8.encode_append, ← hlead, List.drop_left]
    refine ⟨lead, ?_, ?_⟩
    · exact (List.prefix_append_right_inj lead).mpr (Utf8.prefix_of_encode_prefix hform)
    · have hoffset : byteSize lead + 1 = span.offset := by
        have hpositive := h.opened.1
        rw [byteSize_eq, hlead]
        omega
      have hlength : byteSize body = span.length := by
        rw [byteSize_eq, h.length_eq]
      rw [hoffset, hlength]
  · rintro ⟨lead, ⟨rest, rfl⟩, rfl⟩
    rw [byteSize_eq, byteSize_eq, Utf8.encode_append, Utf8.encode_append, encode_form hmark]
    simpa using quotes_append (Utf8.encode lead) (Utf8.encode body) (Utf8.encode rest) mark

theorem quoted?_eq_none_iff (hmark : mark.toNat < 0x80) :
    quoted? text mark body = none ↔ Absent (Utf8.encode text) mark (Utf8.encode body) := by
  unfold quoted?
  rw [Option.map_eq_none_iff, before?_eq_none_iff]
  constructor
  · intro h span hspan
    obtain ⟨lead, hlead, -⟩ := (quotes_encode_iff hmark).mp hspan
    exact h lead hlead
  · intro h lead hlead
    exact h _ ((quotes_encode_iff hmark).mpr ⟨lead, hlead, rfl⟩)

theorem first_of_quoted? (hmark : mark.toNat < 0x80) (h : quoted? text mark body = some span) :
    span.First (Utf8.encode text) mark (Utf8.encode body) := by
  obtain ⟨lead, hlead, rfl⟩ := Option.map_eq_some_iff.mp h
  obtain ⟨hstands, hfirst⟩ := before?_eq_some hlead
  refine ⟨(quotes_encode_iff hmark).mpr ⟨lead, hstands, rfl⟩, ?_⟩
  intro other hother
  obtain ⟨later, hlater, rfl⟩ := (quotes_encode_iff hmark).mp hother
  obtain ⟨between, rfl⟩ := hfirst later hlater
  simp only [byteSize, total_append]
  omega

theorem quoted?_eq_some_iff (hmark : mark.toNat < 0x80) :
    quoted? text mark body = some span ↔
      span.First (Utf8.encode text) mark (Utf8.encode body) := by
  constructor
  · exact first_of_quoted? hmark
  · intro h
    cases hquoted : quoted? text mark body with
    | none => exact absurd h.1 ((quoted?_eq_none_iff hmark).mp hquoted span)
    | some found => rw [(first_of_quoted? hmark hquoted).unique h]

end

/-- The span of a value is the first place where it stands in double quotes; without one, the first
in single quotes; without that too, the first in double quotes with its backslashes doubled. There
is no span just if the value stands in none of these ways. -/
theorem ofValue?_exact (source value : String) (hvalue : value ≠ "") :
    let bytes := Utf8.encodeString source
    let plain := Utf8.encodeString value
    let doubled := Utf8.encode (doubleBackslashes value.toList)
    (∀ span, ofValue? source value = some span ↔
      span.First bytes '"' plain ∨
      Absent bytes '"' plain ∧ span.First bytes '\'' plain ∨
      Absent bytes '"' plain ∧ Absent bytes '\'' plain ∧ span.First bytes '"' doubled) ∧
    (ofValue? source value = none ↔
      Absent bytes '"' plain ∧ Absent bytes '\'' plain ∧ Absent bytes '"' doubled) := by
  have hbody : value.toList.isEmpty = false := by
    simpa using hvalue
  have hdouble : ('"').toNat < 0x80 := by decide
  have hsingle : ('\'').toNat < 0x80 := by decide
  intro bytes plain doubled
  have hof : ofValue? source value = (quoted? source.toList '"' value.toList).or
      ((quoted? source.toList '\'' value.toList).or
        (quoted? source.toList '"' (doubleBackslashes value.toList))) := by
    simp [ofValue?, hbody]
  rw [hof]
  constructor
  · intro span
    simp only [Option.or_eq_some_iff, quoted?_eq_some_iff hdouble, quoted?_eq_some_iff hsingle,
      quoted?_eq_none_iff hdouble, quoted?_eq_none_iff hsingle, ← and_or_left]
    rfl
  · simp only [Option.or_eq_none_iff, quoted?_eq_none_iff hdouble, quoted?_eq_none_iff hsingle]
    rfl

/-- Offsets count bytes, and a doubled backslash makes the span longer than the value. -/
theorem ofValue?_exact_doubled :
    "a\\d" ≠ "" ∧ ofValue? "é = \"a\\\\d\"" "a\\d" = some ⟨6, 4⟩ ∧
      (⟨6, 4⟩ : Span).First (Utf8.encodeString "é = \"a\\\\d\"") '"'
        (Utf8.encode (doubleBackslashes ("a\\d").toList)) := by
  have hvalue : "a\\d" ≠ "" := by decide
  have hspan : ofValue? "é = \"a\\\\d\"" "a\\d" = some ⟨6, 4⟩ := by decide
  have hlength : (4 : Nat) ≠ (Utf8.encodeString "a\\d").length := by decide
  refine ⟨hvalue, hspan, ?_⟩
  rcases ((ofValue?_exact "é = \"a\\\\d\"" "a\\d" hvalue).1 ⟨6, 4⟩).mp hspan with
    h | ⟨-, h⟩ | ⟨-, -, h⟩
  · exact absurd h.1.length_eq hlength
  · exact absurd h.1.length_eq hlength
  · exact h

end SchemaForge.Span
