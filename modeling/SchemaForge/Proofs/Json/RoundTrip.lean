import Mathlib.Data.List.TakeWhile
import SchemaForge.Json.Parser
import SchemaForge.Json.Printer

/-! Reading what was printed. A value comes back from its compact text where its integers are
natural numbers of 64 bits, its containers nest no deeper than the reader goes, and no member of it
is one that the expected shape passes over. -/

namespace SchemaForge.Json

variable {rest : List Char}

section Strings

theorem unit?_hexDigit {n : Nat} (h : n < 32) :
    unit? '0' '0' (hexDigit (n / 16)) (hexDigit (n % 16)) = some n := by
  revert n
  decide

theorem readString_simple {e c : Char} (h : simpleEscape? e = some c) (acc rest : List Char) :
    readString none acc ('\\' :: e :: rest) = readString none (c :: acc) rest := by
  rw [readString.eq_5 acc e rest c _ h]
  rintro _ _ _ _ _ rfl
  cases h

theorem readString_control {c : Char} (h : c.toNat < 32) (acc rest : List Char) :
    readString none acc
        ('\\' :: 'u' :: '0' :: '0' :: hexDigit (c.toNat / 16) :: hexDigit (c.toNat % 16) :: rest) =
      readString none (c :: acc) rest := by
  have hlow : ¬ 0xD800 ≤ c.toNat := by omega
  have hmid : ¬ 0xDC00 ≤ c.toNat := by omega
  rw [readString.eq_3 _ _ _ _ _ _ _ (unit?_hexDigit h)]
  simp [hlow, hmid]

theorem readString_plain {c : Char} (hslash : c ≠ '\\') (hquote : c ≠ '"') (h : ¬ c.toNat < 32)
    (acc rest : List Char) : readString none acc (c :: rest) = readString none (c :: acc) rest := by
  rw [readString.eq_7]
  · simp [hquote, h]
  · intro _ _ _ _ _ heq
    exact absurd heq hslash
  · intro _ _ heq
    exact absurd heq hslash

theorem readString_escapeChar (c : Char) (acc rest : List Char) :
    readString none acc (escapeChar c ++ rest) = readString none (c :: acc) rest := by
  unfold escapeChar
  split
  · exact readString_simple rfl acc rest
  · exact readString_simple rfl acc rest
  · exact readString_simple rfl acc rest
  · exact readString_simple rfl acc rest
  · exact readString_simple rfl acc rest
  · rename_i hquote hslash _ _ _
    split_ifs with hback hform hcontrol
    · obtain rfl : c = '\x08' := Char.toNat_inj.mp (by simpa using hback)
      exact readString_simple rfl acc rest
    · obtain rfl : c = '\x0c' := Char.toNat_inj.mp (by simpa using hform)
      exact readString_simple rfl acc rest
    · exact readString_control hcontrol acc rest
    · exact readString_plain hslash hquote hcontrol acc rest

theorem readString_escaped (cs acc rest : List Char) :
    readString none acc (cs.flatMap escapeChar ++ '"' :: rest) =
      .ok (String.ofList (acc.reverse ++ cs), rest) := by
  induction cs generalizing acc with
  | nil => simp [readString]
  | cons c cs ih =>
    rw [List.flatMap_cons, List.append_assoc, readString_escapeChar, ih]
    simp

theorem quote_append (s : String) (rest : List Char) :
    quote s ++ rest = '"' :: (s.toList.flatMap escapeChar ++ '"' :: rest) := by
  simp [quote]

theorem readString_quote (s : String) (rest : List Char) :
    readString none [] (s.toList.flatMap escapeChar ++ '"' :: rest) = .ok (s, rest) := by
  rw [readString_escaped]
  simp

end Strings

section Numbers

/-- No number goes on with this text. -/
def Ends (rest : List Char) : Prop :=
  ∀ c ∈ rest.head?, c.isDigit = false ∧ c ≠ '.' ∧ c ≠ 'e' ∧ c ≠ 'E'

theorem digitsValue_toDigits (n : Nat) : digitsValue (Nat.toDigits 10 n) = n :=
  Nat.ofDigitChars_toDigits (by decide) (by decide)

theorem isDigit_of_mem_toDigits {n : Nat} {c : Char} (h : c ∈ Nat.toDigits 10 n) :
    c.isDigit = true :=
  Nat.isDigit_of_mem_toDigits (by decide) (by decide) h

theorem exists_cons_toDigits (n : Nat) :
    ∃ c cs, Nat.toDigits 10 n = c :: cs ∧ c.isDigit = true := by
  obtain ⟨c, cs, hcons⟩ := List.exists_cons_of_ne_nil (@Nat.toDigits_ne_nil n 10)
  exact ⟨c, cs, hcons, isDigit_of_mem_toDigits (hcons ▸ List.mem_cons_self)⟩

theorem head?_toDigits {n : Nat} (h : 0 < n) : (Nat.toDigits 10 n).head? ≠ some '0' := by
  induction n using Nat.strongRecOn with
  | ind n ih =>
    rw [Nat.toDigits_eq_if (by decide)]
    split
    · rename_i hlt
      have hdigit : ∀ d < 10, 0 < d → Nat.digitChar d ≠ '0' := by decide
      simpa using hdigit n hlt h
    · have hrest := ih (n / 10) (by omega) (by omega)
      obtain ⟨c, cs, hcons, -⟩ := exists_cons_toDigits (n / 10)
      rw [hcons] at hrest ⊢
      exact hrest

theorem noLead_toDigits (n : Nat) :
    ((Nat.toDigits 10 n).isEmpty ||
      (Nat.toDigits 10 n).length > 1 && (Nat.toDigits 10 n).head? == some '0') = false := by
  rcases Nat.eq_zero_or_pos n with rfl | hn
  · rfl
  · simp [Nat.toDigits_ne_nil, head?_toDigits hn]

theorem takeWhile_toDigits (n : Nat) (h : Ends rest) :
    (Nat.toDigits 10 n ++ rest).takeWhile Char.isDigit = Nat.toDigits 10 n := by
  rw [List.takeWhile_append_of_pos fun c hc => isDigit_of_mem_toDigits hc]
  cases rest with
  | nil => simp
  | cons c rest => simp [(h c rfl).1]

theorem dropWhile_toDigits (n : Nat) (h : Ends rest) :
    (Nat.toDigits 10 n ++ rest).dropWhile Char.isDigit = rest := by
  rw [List.dropWhile_append_of_pos fun c hc => isDigit_of_mem_toDigits hc]
  cases rest with
  | nil => rfl
  | cons c rest => simp [(h c rfl).1]

theorem readFraction_of_ends (h : Ends rest) : readFraction rest = .ok ([], rest) := by
  unfold readFraction
  split
  · exact absurd rfl (h '.' rfl).2.1
  · rfl

theorem readExponent_of_ends (h : Ends rest) : readExponent rest = .ok (none, rest) := by
  cases rest with
  | nil => rfl
  | cons c rest => simp [readExponent, (h c rfl).2.2]

theorem readNumeral_toDigits (n : Nat) (h : Ends rest) :
    readNumeral (Nat.toDigits 10 n ++ rest) = .ok (⟨false, Nat.toDigits 10 n, [], none⟩, rest) := by
  have hsign : ∀ r, Nat.toDigits 10 n ++ rest ≠ '-' :: r := by
    intro r heq
    obtain ⟨c, cs, hcons, hdigit⟩ := exists_cons_toDigits n
    rw [hcons, List.cons_append, List.cons.injEq] at heq
    rw [heq.1] at hdigit
    cases hdigit
  unfold readNumeral
  split
  rename_i negative cs heq
  split at heq
  · rename_i r hminus
    exact absurd hminus (hsign r)
  · cases heq
    simp only [takeWhile_toDigits n h, dropWhile_toDigits n h, noLead_toDigits,
      readFraction_of_ends h, readExponent_of_ends h, bind, Except.bind]
    rfl

theorem readNumber_toDigits {n : Nat} (hn : n < Nat.pow 2 64) (h : Ends rest) :
    readNumber (Nat.toDigits 10 n ++ rest) = .ok (.int n, rest) := by
  have hint : Numeral.int? ⟨false, Nat.toDigits 10 n, [], none⟩ = some (n : Int) := by
    have hsize : ¬ n ≥ Nat.pow 2 64 := Nat.not_le.mpr hn
    simp only [Numeral.int?, digitsValue_toDigits, if_neg hsize]
    rfl
  rw [readNumber, readNumeral_toDigits n h]
  simp only [bind, Except.bind, hint]

end Numbers

section Values

/-- The value can be read where a shape is expected and containers may nest `depth` deep. -/
inductive Fits : Nat → Shape → Json → Prop where
  | null {depth shape} : Fits depth shape null
  | bool {depth shape} (b : Bool) : Fits depth shape (bool b)
  | int {depth shape} {n : Nat} (h : n < Nat.pow 2 64) : Fits depth shape (int n)
  | str {depth shape} (s : String) : Fits depth shape (str s)
  | arr {depth shape items} (h : ∀ i v, items[i]? = some v → Fits depth (shape.item i) v) :
      Fits (depth + 1) shape (arr items)
  | obj {depth shape members} (hread : ∀ m ∈ members, (shape.member m.1).isSome)
      (h : ∀ m ∈ members, ∀ s, shape.member m.1 = some s → Fits depth s m.2) :
      Fits (depth + 1) shape (obj members)

/-- A value begins with a character that is no blank and closes nothing. -/
def Opens (cs : List Char) : Prop :=
  ∃ c rest, cs = c :: rest ∧ isSpace c = false ∧ c ≠ ']' ∧ c ≠ '\x7d'

theorem skipSpace_of_opens {cs : List Char} (h : Opens cs) : skipSpace cs = cs := by
  obtain ⟨c, rest, rfl, hspace, -⟩ := h
  simp [skipSpace, hspace]

theorem opens_of_isDigit {c : Char} (h : c.isDigit = true) (cs : List Char) : Opens (c :: cs) := by
  refine ⟨c, cs, rfl, ?_, ?_, ?_⟩
  · rw [Bool.eq_false_iff]
    intro hspace
    simp only [isSpace, Bool.or_eq_true, beq_iff_eq, or_assoc] at hspace
    rcases hspace with rfl | rfl | rfl | rfl <;> cases h
  · rintro rfl
    cases h
  · rintro rfl
    cases h

variable {fuel depth : Nat} {shape : Shape} {v : Json}

theorem printChars_natCast (n : Nat) : printChars (int n) = Nat.toDigits 10 n :=
  Nat.toList_repr

theorem opens_printChars (h : Fits depth shape v) (rest : List Char) :
    Opens (printChars v ++ rest) := by
  cases h with
  | null => exact ⟨'n', _, rfl, by decide⟩
  | bool b =>
    cases b with
    | true => exact ⟨'t', _, rfl, by decide⟩
    | false => exact ⟨'f', _, rfl, by decide⟩
  | @int _ _ n hn =>
    obtain ⟨c, cs, hcons, hdigit⟩ := exists_cons_toDigits n
    rw [printChars_natCast, hcons]
    exact opens_of_isDigit hdigit (cs ++ rest)
  | str s => exact ⟨'"', _, rfl, by decide⟩
  | arr h => exact ⟨'[', _, rfl, by decide⟩
  | obj hread h => exact ⟨'\x7b', _, rfl, by decide⟩

theorem opens_printItems (h : Fits depth shape v) (items : List Json) (rest : List Char) :
    Opens (printItems (v :: items) ++ rest) := by
  rw [printItems, List.append_assoc]
  exact opens_printChars h _

theorem opens_printMembers (m : String × Json) (members : List (String × Json))
    (rest : List Char) : Opens (printMembers (m :: members) ++ rest) :=
  ⟨'"', _, rfl, by decide⟩

theorem readValue_digit {c : Char} (h : c.isDigit = true) (cs : List Char) :
    readValue (fuel + 1) depth shape (c :: cs) = readNumber (c :: cs) := by
  have hne : ∀ d : Char, d.isDigit = false → c = d → False := by
    rintro d hd rfl
    rw [hd] at h
    cases h
  rw [readValue.eq_9 _ _ _ _ _ (hne _ rfl) (hne _ rfl) (hne _ rfl) (hne _ rfl) (hne _ rfl)
    (hne _ rfl), if_pos (by simp [h])]

theorem readWord_append {α : Type} (word : List Char) (value : α) (rest : List Char) :
    readWord word value (word ++ rest) = .ok (value, rest) := by
  induction word with
  | nil => simp [readWord]
  | cons c word ih => simpa [readWord] using ih

theorem ends_cons {c : Char} (h : c.isDigit = false ∧ c ≠ '.' ∧ c ≠ 'e' ∧ c ≠ 'E')
    (cs : List Char) : Ends (c :: cs) := by
  intro d hd
  obtain rfl : c = d := by simpa using hd
  exact h

theorem readItems_comma {items : List Json} {cs r : List Char}
    (hvalue : readValue fuel depth (shape.item items.length) cs = .ok (v, ',' :: r)) :
    readItems (fuel + 1) depth shape items cs =
      readItems fuel depth shape (v :: items) (skipSpace r) := by
  rw [readItems.eq_2, hvalue]
  rfl

theorem readItems_close {items : List Json} {cs r : List Char}
    (hvalue : readValue fuel depth (shape.item items.length) cs = .ok (v, ']' :: r)) :
    readItems (fuel + 1) depth shape items cs = .ok (arr (v :: items).reverse, r) := by
  rw [readItems.eq_2, hvalue]
  rfl

/-- The value is what its text reads as, whatever follows that is not part of it. -/
def ReadsBack (depth : Nat) (shape : Shape) (v : Json) : Prop :=
  ∀ fuel rest, 2 * (printChars v).length ≤ fuel → Ends rest →
    readValue fuel (depth + 1) shape (printChars v ++ rest) = .ok (v, rest)

/-- The induction is on the items left to read; how many were read before tells at which position
each of them stands. -/
theorem readItems_print {items : List Json} (before : List Json) (hne : items ≠ [])
    (hitems : ∀ i v, items[i]? = some v → Fits depth (shape.item (before.length + i)) v ∧
      ReadsBack depth (shape.item (before.length + i)) v)
    (hfuel : 2 * (printItems items).length < fuel) (rest : List Char) :
    readItems fuel (depth + 1) shape before (printItems items ++ ']' :: rest) =
      .ok (arr (before.reverse ++ items), rest) := by
  induction items generalizing before fuel with
  | nil => exact absurd rfl hne
  | cons v items ih =>
    -- each item takes one unit and the rest of the fuel serves the item and the items after it
    obtain ⟨fuel, rfl⟩ : ∃ less, fuel = less + 1 := ⟨fuel - 1, by omega⟩
    have hfirst := (hitems 0 v rfl).2 fuel
    cases items with
    | nil =>
      simp only [printItems, List.isEmpty_nil, if_true, List.append_nil] at hfuel ⊢
      rw [readItems_close (hfirst _ (by omega) (ends_cons (by decide) _))]
      simp
    | cons w items =>
      have hopen := opens_printItems (hitems 1 w rfl).1 items (']' :: rest)
      rw [printItems] at hfuel ⊢
      simp only [List.isEmpty_cons, Bool.false_eq_true, if_false, List.length_append,
        List.length_cons, List.append_assoc, List.cons_append] at hfuel ⊢
      have hnext : readItems fuel (depth + 1) shape (v :: before)
          (printItems (w :: items) ++ ']' :: rest) =
          .ok (arr ((v :: before).reverse ++ w :: items), rest) := by
        apply ih (v :: before) (List.cons_ne_nil w items) _ (by omega)
        intro i u hu
        rw [List.length_cons, Nat.add_right_comm]
        exact hitems (i + 1) u (by simpa using hu)
      rw [readItems_comma (hfirst _ (by omega) (ends_cons (by decide) _)), skipSpace_of_opens hopen,
        hnext]
      simp

section Members

variable {members : List (String × Json)} {k : String} {inner : Shape} {cs r : List Char}

theorem readMembers_comma (hmember : shape.member k = some inner) (hopen : Opens cs)
    (hvalue : readValue fuel depth inner cs = .ok (v, ',' :: r)) :
    readMembers (fuel + 1) depth shape members (quote k ++ ':' :: cs) =
      readMembers fuel depth shape ((k, v) :: members) (skipSpace r) := by
  have hcolon : skipSpace (':' :: cs) = ':' :: cs := rfl
  rw [quote_append, readMembers.eq_2, readString_quote]
  simp only [bind, Except.bind, hcolon, hmember, skipSpace_of_opens hopen, hvalue]
  rfl

theorem readMembers_close (hmember : shape.member k = some inner) (hopen : Opens cs)
    (hvalue : readValue fuel depth inner cs = .ok (v, '\x7d' :: r)) :
    readMembers (fuel + 1) depth shape members (quote k ++ ':' :: cs) =
      .ok (obj ((k, v) :: members).reverse, r) := by
  have hcolon : skipSpace (':' :: cs) = ':' :: cs := rfl
  rw [quote_append, readMembers.eq_2, readString_quote]
  simp only [bind, Except.bind, hcolon, hmember, skipSpace_of_opens hopen, hvalue]
  rfl

end Members

theorem readMembers_print {members : List (String × Json)} (before : List (String × Json))
    (hne : members ≠ [])
    (hmembers : ∀ m ∈ members, ∃ inner, shape.member m.1 = some inner ∧ Fits depth inner m.2 ∧
      ReadsBack depth inner m.2)
    (hfuel : 2 * (printMembers members).length < fuel) (rest : List Char) :
    readMembers fuel (depth + 1) shape before (printMembers members ++ '\x7d' :: rest) =
      .ok (obj (before.reverse ++ members), rest) := by
  induction members generalizing before fuel with
  | nil => exact absurd rfl hne
  | cons m members ih =>
    obtain ⟨k, v⟩ := m
    obtain ⟨fuel, rfl⟩ : ∃ less, fuel = less + 1 := ⟨fuel - 1, by omega⟩
    rw [List.forall_mem_cons] at hmembers
    obtain ⟨⟨inner, hmember, hfits, hread⟩, hmore⟩ := hmembers
    dsimp only at hmember hfits hread
    cases members with
    | nil =>
      simp only [printMembers, List.isEmpty_nil, if_true, List.append_nil, List.length_append,
        List.length_cons, List.append_assoc, List.cons_append] at hfuel ⊢
      rw [readMembers_close hmember (opens_printChars hfits _)
        (hread _ _ (by omega) (ends_cons (by decide) _))]
      simp
    | cons next members =>
      rw [printMembers] at hfuel ⊢
      simp only [List.isEmpty_cons, Bool.false_eq_true, if_false, List.length_append,
        List.length_cons, List.append_assoc, List.cons_append] at hfuel ⊢
      have hnext : readMembers fuel (depth + 1) shape ((k, v) :: before)
          (printMembers (next :: members) ++ '\x7d' :: rest) =
          .ok (obj (((k, v) :: before).reverse ++ next :: members), rest) :=
        ih ((k, v) :: before) (List.cons_ne_nil next members) hmore (by omega)
      rw [readMembers_comma hmember (opens_printChars hfits _)
        (hread _ _ (by omega) (ends_cons (by decide) _)),
        skipSpace_of_opens (opens_printMembers next members _), hnext]
      simp

theorem readValue_items {cs : List Char} (h : Opens cs) :
    readValue (fuel + 1) (depth + 2) shape ('[' :: cs) =
      readItems fuel (depth + 1) shape [] cs := by
  rw [readValue.eq_4, if_neg (by omega), skipSpace_of_opens h]
  obtain ⟨c, rest, rfl, -, hclose, -⟩ := h
  split
  · rename_i heq
    exact absurd (List.cons.inj heq).1 hclose
  · rfl

theorem readValue_members {cs : List Char} (h : Opens cs) :
    readValue (fuel + 1) (depth + 2) shape ('\x7b' :: cs) =
      readMembers fuel (depth + 1) shape [] cs := by
  rw [readValue.eq_5, if_neg (by omega), skipSpace_of_opens h]
  obtain ⟨c, rest, rfl, -, -, hclose⟩ := h
  split
  · rename_i heq
    exact absurd (List.cons.inj heq).1 hclose
  · rfl

theorem readsBack_arr {items : List Json} (h : ∀ i v, items[i]? = some v →
    Fits depth (shape.item i) v ∧ ReadsBack depth (shape.item i) v) :
    ReadsBack (depth + 1) shape (arr items) := by
  intro fuel rest hfuel _
  rw [printChars] at hfuel ⊢
  simp only [List.length_append, List.length_cons, List.append_assoc, List.cons_append,
    List.nil_append] at hfuel ⊢
  obtain ⟨fuel, rfl⟩ : ∃ less, fuel = less + 1 := ⟨fuel - 1, by omega⟩
  cases items with
  | nil => rfl
  | cons v items =>
    rw [readValue_items (opens_printItems (h 0 v rfl).1 items _),
      readItems_print [] (List.cons_ne_nil v items) (by simpa using h) (by omega)]
    rfl

theorem readsBack_obj {members : List (String × Json)} (h : ∀ m ∈ members, ∃ inner,
    shape.member m.1 = some inner ∧ Fits depth inner m.2 ∧ ReadsBack depth inner m.2) :
    ReadsBack (depth + 1) shape (obj members) := by
  intro fuel rest hfuel _
  rw [printChars] at hfuel ⊢
  simp only [List.length_append, List.length_cons, List.append_assoc, List.cons_append,
    List.nil_append] at hfuel ⊢
  obtain ⟨fuel, rfl⟩ : ∃ less, fuel = less + 1 := ⟨fuel - 1, by omega⟩
  cases members with
  | nil => rfl
  | cons m members =>
    rw [readValue_members (opens_printMembers m members _),
      readMembers_print [] (List.cons_ne_nil m members) h (by omega)]
    rfl

theorem readsBack_of_fits (h : Fits depth shape v) : ReadsBack depth shape v := by
  induction h with
  | arr h ih => exact readsBack_arr fun i v hv => ⟨h i v hv, ih i v hv⟩
  | obj hread h ih =>
    apply readsBack_obj
    intro m hm
    obtain ⟨inner, hinner⟩ := Option.isSome_iff_exists.mp (hread m hm)
    exact ⟨inner, hinner, h m hm inner hinner, ih m hm inner hinner⟩
  | null =>
    rintro (_ | fuel) rest hfuel -
    · cases hfuel
    · exact readWord_append ['u', 'l', 'l'] Json.null rest
  | bool b =>
    rintro (_ | fuel) rest hfuel -
    · cases b <;> cases hfuel
    · cases b with
      | true => exact readWord_append ['r', 'u', 'e'] (Json.bool true) rest
      | false => exact readWord_append ['a', 'l', 's', 'e'] (Json.bool false) rest
  | @int _ _ n hn =>
    intro fuel rest hfuel hrest
    obtain ⟨c, cs, hcons, hdigit⟩ := exists_cons_toDigits n
    rw [printChars_natCast] at hfuel ⊢
    rw [← readNumber_toDigits hn hrest, hcons]
    rw [hcons, List.length_cons] at hfuel
    obtain ⟨fuel, rfl⟩ : ∃ less, fuel = less + 1 := ⟨fuel - 1, by omega⟩
    exact readValue_digit hdigit (cs ++ rest)
  | str s =>
    rintro (_ | fuel) rest hfuel -
    · cases hfuel
    · rw [printChars, quote_append, readValue.eq_3, readString_quote]
      rfl

end Values

theorem parseAs_print {shape : Shape} {v : Json} (h : Fits (depthLimit - 1) shape v) :
    parseAs shape (print v) = .ok v := by
  have hopen := skipSpace_of_opens (opens_printChars h [])
  have hread := readsBack_of_fits h (2 * (printChars v).length + 2) [] (by omega) (by simp [Ends])
  have hlimit : depthLimit - 1 + 1 = depthLimit := rfl
  rw [List.append_nil] at hopen hread
  rw [hlimit] at hread
  rw [parseAs, print, String.toList_ofList, hopen, hread]
  rfl

end SchemaForge.Json
