/-
This file says what is taken off a text before it is read as a date or a time: white space around
it and then quotes around what is left. The digits and signs at the ends of the texts of dates and
times are neither, so what is taken off is just what was put around such a text.
-/

import Mathlib.Data.List.Basic
import SqlRecords.Calendar.Reader
import SqlRecords.Proofs.Text.Blank

namespace SqlRecords.Calendar

/-! ### Ends of texts -/

/-- Whether a character stands at an end of a date or time: it is a digit or a sign. -/
def isEdge (character : Char) : Bool :=
  character.isDigit || character == '-'

theorem code_of_isEdge {character : Char} (edge : isEdge character = true) :
    45 ≤ character.toNat ∧ character.toNat ≤ 57 := by
  rcases Bool.or_eq_true _ _ ▸ edge with digit | sign
  · have range := Char.isDigit_iff_toNat.mp digit
    exact ⟨Nat.le_trans (by decide) range.1, range.2⟩
  · rw [beq_iff_eq.mp sign]
    decide

theorem isBlank_of_isEdge {character : Char} (edge : isEdge character = true) :
    Text.isBlank character = false := by
  obtain ⟨least, greatest⟩ := code_of_isEdge edge
  exact isBlank_of_visible (by omega) (by omega)

theorem isQuote_of_isEdge {character : Char} (edge : isEdge character = true) :
    isQuote character = false := by
  unfold isQuote
  rw [Bool.or_eq_false_iff, beq_eq_false_iff_ne, beq_eq_false_iff_ne]
  constructor <;> rintro rfl <;> exact absurd edge (by decide)

/-- A text with digits or signs at its two ends. -/
structure IsEdged (inner : List Char) : Prop where
  nonempty : inner ≠ []
  first : ∀ character ∈ inner.head?, isEdge character = true
  last : ∀ character ∈ inner.getLast?, isEdge character = true

theorem strip_isBlank_eq_self {inner : List Char} (edged : IsEdged inner) :
    Text.strip Text.isBlank inner = inner :=
  strip_eq_self (fun character member => isBlank_of_isEdge (edged.first character member))
    fun character member => isBlank_of_isEdge (edged.last character member)

/-! ### Texts with something around them -/

/-- Whether a text is another one with any quotes around it and then any white space. -/
inductive Wraps (inner : List Char) : List Char → Prop where
  | around {blanksBefore quotesBefore quotesAfter blanksAfter : List Char}
    (isBlankBefore : ∀ character ∈ blanksBefore, Text.isBlank character = true)
    (isQuoteBefore : ∀ character ∈ quotesBefore, isQuote character = true)
    (isQuoteAfter : ∀ character ∈ quotesAfter, isQuote character = true)
    (isBlankAfter : ∀ character ∈ blanksAfter, Text.isBlank character = true) :
    Wraps inner (blanksBefore ++ (quotesBefore ++ inner ++ quotesAfter) ++ blanksAfter)

theorem Wraps.bare (inner : List Char) : Wraps inner inner := by
  have none (test : Char → Bool) : ∀ character ∈ ([] : List Char), test character = true :=
    fun _ member => nomatch member
  have wraps : Wraps inner ([] ++ ([] ++ inner ++ []) ++ []) :=
    .around (none _) (none _) (none _) (none _)
  simpa using wraps

theorem isBlank_of_isQuote {character : Char} (quote : isQuote character = true) :
    Text.isBlank character = false := by
  unfold isQuote at quote
  rw [Bool.or_eq_true, beq_iff_eq, beq_iff_eq] at quote
  rcases quote with rfl | rfl <;> decide

/-- Quotes and white space are taken off a text that they were put around. -/
theorem unwrap_of_wraps {inner characters : List Char} (edged : IsEdged inner)
    (wraps : Wraps inner characters) : unwrap characters = inner := by
  obtain @⟨_, quotesBefore, quotesAfter, _, isBlankBefore, isQuoteBefore, isQuoteAfter,
    isBlankAfter⟩ := wraps
  have visible {character : Char} (outer : isQuote character = true ∨ isEdge character = true) :
      Text.isBlank character = false := outer.elim isBlank_of_isQuote isBlank_of_isEdge
  have nonempty : quotesBefore ++ inner ++ quotesAfter ≠ [] := by
    simp [edged.nonempty]
  have first : ∀ character ∈ (quotesBefore ++ inner ++ quotesAfter).head?,
      Text.isBlank character = false := by
    intro character member
    rw [List.append_assoc, List.head?_append, List.head?_append_of_ne_nil _ edged.nonempty]
      at member
    rcases Option.or_eq_some_iff.mp member with quote | ⟨-, edge⟩
    · exact visible (.inl (isQuoteBefore character (List.mem_of_mem_head? quote)))
    · exact visible (.inr (edged.first character edge))
  have last : ∀ character ∈ (quotesBefore ++ inner ++ quotesAfter).getLast?,
      Text.isBlank character = false := by
    intro character member
    rw [List.getLast?_append, List.getLast?_append_of_ne_nil _ edged.nonempty] at member
    rcases Option.or_eq_some_iff.mp member with quote | ⟨-, edge⟩
    · exact visible (.inl (isQuoteAfter character (List.mem_of_getLast? quote)))
    · exact visible (.inr (edged.last character edge))
  unfold unwrap
  rw [strip_append nonempty isBlankBefore isBlankAfter first last,
    strip_append edged.nonempty isQuoteBefore isQuoteAfter
      (fun character member => isQuote_of_isEdge (edged.first character member))
      fun character member => isQuote_of_isEdge (edged.last character member)]

theorem unwrap_eq_self {inner : List Char} (edged : IsEdged inner) : unwrap inner = inner :=
  unwrap_of_wraps edged (.bare inner)

end SqlRecords.Calendar
