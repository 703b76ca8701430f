import Mathlib.Tactic.Common
import SchemaForge.Proofs.Output.Splitting

/-! Lines gathered from a text that comes in pieces. What ends within a piece is cut off and the
rest is kept for the next one, so a carriage return may come long before its line feed. Exactly
one list of lines spells the text, and it is gathered from whatever pieces the text comes in. -/

namespace SchemaForge.Line

/-- The lines that end within the pieces, one piece after the other, and what is left of them. -/
def cutPieces (partly : List Char) : List (List Char) → List Line × List Char
  | [] => ([], partly)
  | piece :: rest =>
    let (lines, left) := cut partly piece
    let (more, left) := cutPieces left rest
    (lines ++ more, left)

/-- All lines of a text that comes in pieces: those that the pieces end, and then what is left. -/
def gather (pieces : List (List Char)) : List Line :=
  let (lines, left) := cutPieces [] pieces
  lines ++ (remainder? left).toList

theorem cutPieces_eq (partly : List Char) (pieces : List (List Char)) :
    cutPieces partly pieces = cut partly pieces.flatten := by
  induction pieces generalizing partly with
  | nil => rfl
  | cons piece rest ih =>
    rw [cutPieces, List.flatten_cons, cut_append]
    simp [ih]

theorem gather_eq_split (pieces : List (List Char)) : gather pieces = split pieces.flatten := by
  rw [gather, cutPieces_eq, split]

/-- The lines make up the text, with every line feed in a terminator and every carriage return
before it too; only the last line may have no terminator, and it is not empty then. -/
structure Spells (text : List Char) (lines : List Line) : Prop where
  whole : lines.flatMap Line.text = text
  content : ∀ line ∈ lines, '\n' ∉ line.content
  terminator : ∀ line ∈ lines, line.terminator = ['\n'] ∨ line.terminator = ['\r', '\n'] ∨
    line.terminator = [] ∧ line.content ≠ []
  ended : ∀ line ∈ lines.dropLast, line.terminator ≠ []
  bare : ∀ line ∈ lines, line.terminator = ['\n'] → line.content.getLast? ≠ some '\r'

namespace Spells

variable {line : Line} {lines : List Line} {text : List Char}

theorem tail (h : Spells text (line :: lines)) : Spells (lines.flatMap Line.text) lines where
  whole := rfl
  content := fun other hother => h.content other (List.mem_cons_of_mem line hother)
  terminator := fun other hother => h.terminator other (List.mem_cons_of_mem line hother)
  ended := by
    intro other hother
    have hne : lines ≠ [] := by
      rintro rfl
      cases hother
    refine h.ended other ?_
    rw [List.dropLast_cons_of_ne_nil hne]
    exact List.mem_cons_of_mem line hother
  bare := fun other hother => h.bare other (List.mem_cons_of_mem line hother)

theorem cons (h : Spells text lines) (hcontent : '\n' ∉ line.content)
    (hterminator : line.terminator = ['\n'] ∧ line.content.getLast? ≠ some '\r' ∨
      line.terminator = ['\r', '\n']) : Spells (line.text ++ text) (line :: lines) where
  whole := by rw [List.flatMap_cons, h.whole]
  content := List.forall_mem_cons.mpr ⟨hcontent, h.content⟩
  terminator := by
    refine List.forall_mem_cons.mpr ⟨?_, h.terminator⟩
    rcases hterminator with ⟨hfeed, -⟩ | hreturn
    · exact Or.inl hfeed
    · exact Or.inr (Or.inl hreturn)
  ended := by
    have hline : line.terminator ≠ [] := by
      rcases hterminator with ⟨hfeed, -⟩ | hreturn
      · simp [hfeed]
      · simp [hreturn]
    cases lines with
    | nil => simp
    | cons next rest => exact List.forall_mem_cons.mpr ⟨hline, h.ended⟩
  bare := by
    refine List.forall_mem_cons.mpr ⟨fun hfeed => ?_, h.bare⟩
    rcases hterminator with ⟨-, hend⟩ | hreturn
    · exact hend
    · simp [hreturn] at hfeed

theorem splits (h : Spells text lines) : Splits text lines := by
  induction lines generalizing text with
  | nil =>
    obtain rfl : [] = text := h.whole
    exact .nil
  | cons line rest ih =>
    have hrest : Splits (rest.flatMap Line.text) rest := ih h.tail
    have hwhole : line.text ++ rest.flatMap Line.text = text := by
      rw [← List.flatMap_cons, h.whole]
    have hcontent := h.content line List.mem_cons_self
    have hbare := h.bare line List.mem_cons_self
    have hended := h.ended
    have hterminator := h.terminator line List.mem_cons_self
    obtain ⟨content, terminator⟩ := line
    simp only [Line.text, List.append_assoc] at hwhole
    rcases hterminator with rfl | rfl | ⟨rfl, hne⟩
    · rw [← hwhole]
      exact .feed hcontent (hbare rfl) hrest
    · rw [← hwhole]
      exact .returnFeed hcontent hrest
    · have hlast : rest = [] := by
        by_contra hmore
        rw [List.dropLast_cons_of_ne_nil hmore] at hended
        exact hended _ List.mem_cons_self rfl
      subst hlast
      rw [← hwhole]
      simpa using Splits.last hne hcontent

end Spells

theorem Splits.spells {text : List Char} {lines : List Line} (h : Splits text lines) :
    Spells text lines := by
  induction h with
  | nil => exact ⟨rfl, by simp, by simp, by simp, by simp⟩
  | last hne hcontent => exact ⟨by simp [Line.text], by simpa, by simpa, by simp, by simp⟩
  | @feed content rest lines hcontent hend _ ih =>
    have hline : Spells (Line.text ⟨content, ['\n']⟩ ++ rest) (⟨content, ['\n']⟩ :: lines) :=
      ih.cons hcontent (Or.inl ⟨rfl, hend⟩)
    simpa [Line.text] using hline
  | @returnFeed content rest lines hcontent _ ih =>
    have hline : Spells (Line.text ⟨content, ['\r', '\n']⟩ ++ rest)
        (⟨content, ['\r', '\n']⟩ :: lines) := ih.cons hcontent (Or.inr rfl)
    simpa [Line.text] using hline

theorem spells_iff {text : List Char} {lines : List Line} :
    Spells text lines ↔ lines = split text := by
  constructor
  · intro h
    exact h.splits.split_eq.symm
  · rintro rfl
    exact (splits_split text).spells

/-- The lines gathered from pieces are the only ones that spell the text of the pieces, however it
is cut. -/
theorem gather_spells (pieces : List (List Char)) :
    Spells pieces.flatten (gather pieces) ∧
    (∀ lines, Spells pieces.flatten lines → lines = gather pieces) ∧
    ∀ others : List (List Char), others.flatten = pieces.flatten → gather others = gather pieces := by
  refine ⟨?_, ?_, ?_⟩
  · exact spells_iff.mpr (gather_eq_split pieces)
  · intro lines h
    rw [gather_eq_split]
    exact spells_iff.mp h
  · intro others h
    rw [gather_eq_split, gather_eq_split, h]

/-- A carriage return two pieces before its line feed. -/
example : gather [['a', '\r'], [], ['\n', 'b'], ['\r']] =
    [⟨['a'], ['\r', '\n']⟩, ⟨['b', '\r'], []⟩] := by decide

end SchemaForge.Line
