/-
This file says what splitting a text at marks gives: at the last mark, the two sides of it, the
second of which has no further mark; at every mark, pieces that make up the text again.
-/

import Mathlib.Data.List.TakeWhile
import SqlRecords.Text.Split

namespace SqlRecords.Text

variable {mark character : Char} {characters front rest : List Char}

/-! ### The last mark -/

theorem splitAtLast?_append (absent : mark ∉ rest) :
    splitAtLast? mark (front ++ mark :: rest) = some (front, rest) := by
  have reached : (front ++ mark :: rest).reverse.dropWhile (· != mark) = mark :: front.reverse := by
    rw [List.reverse_append, List.reverse_cons, List.append_assoc, List.dropWhile_append_of_pos]
    · exact List.dropWhile_cons_of_neg (by rw [bne_self_eq_false]; exact Bool.false_ne_true)
    · intro character member
      exact bne_iff_ne.mpr (ne_of_mem_of_not_mem (List.mem_reverse.mp member) absent)
  have behind : (front ++ mark :: rest).drop (front.reverse.length + 1) = rest := by
    rw [List.append_cons]
    exact List.drop_left' (by rw [List.length_append, List.length_reverse]; rfl)
  unfold splitAtLast?
  rw [reached]
  show some (front.reverse.reverse, _) = _
  rw [List.reverse_reverse, behind]

theorem splitAtLast?_eq_none (absent : mark ∉ characters) :
    splitAtLast? mark characters = none := by
  have passed : characters.reverse.dropWhile (· != mark) = [] := by
    refine List.dropWhile_eq_nil_iff.mpr fun character member => ?_
    exact bne_iff_ne.mpr (ne_of_mem_of_not_mem (List.mem_reverse.mp member) absent)
  unfold splitAtLast?
  rw [passed]

theorem exists_last_of_mem (member : mark ∈ characters) :
    ∃ front rest, characters = front ++ mark :: rest ∧ mark ∉ rest := by
  obtain ⟨rest, front, equal, absent⟩ := List.eq_append_cons_of_mem (List.mem_reverse.mpr member)
  refine ⟨front.reverse, rest.reverse, ?_, fun found => absent (List.mem_reverse.mp found)⟩
  rw [← List.reverse_reverse characters, equal, List.reverse_append, List.reverse_cons,
    List.append_assoc]
  rfl

/-! ### All marks -/

theorem splitAt_ne_nil (mark : Char) (characters : List Char) : splitAt mark characters ≠ [] := by
  cases characters with
  | nil => exact List.cons_ne_nil _ _
  | cons character rest =>
    unfold splitAt
    split
    · exact List.cons_ne_nil _ _
    · split <;> exact List.cons_ne_nil _ _

theorem intercalate_cons (separator : List Char) (first : List Char) (others : List (List Char)) :
    List.intercalate separator ((character :: first) :: others) =
      character :: List.intercalate separator (first :: others) := by
  cases others with
  | nil => rfl
  | cons => rfl

/-- The pieces of a text, with marks between them, are the text. -/
theorem intercalate_splitAt (mark : Char) (characters : List Char) :
    List.intercalate [mark] (splitAt mark characters) = characters := by
  induction characters with
  | nil => rfl
  | cons character rest inductionHypothesis =>
    cases pieces : splitAt mark rest with
    | nil => exact absurd pieces (splitAt_ne_nil mark rest)
    | cons first others =>
      rw [pieces] at inductionHypothesis
      rw [splitAt, pieces]
      show List.intercalate [mark] (if character = mark then _ else _) = _
      split
      case isTrue isMark =>
        rw [List.intercalate_cons_cons, inductionHypothesis, isMark]
        rfl
      case isFalse =>
        rw [intercalate_cons, inductionHypothesis]

theorem isInfix_of_mem_splitAt {piece : List Char} (member : piece ∈ splitAt mark characters) :
    piece <:+: characters := by
  rw [← intercalate_splitAt mark characters]
  generalize splitAt mark characters = pieces at member
  induction pieces with
  | nil => exact absurd member List.not_mem_nil
  | cons first others inductionHypothesis =>
    cases others with
    | nil =>
      obtain rfl := List.mem_singleton.mp member
      exact ⟨[], [], by rw [List.nil_append, List.append_nil, List.intercalate_singleton]⟩
    | cons second others =>
      rw [List.intercalate_cons_cons, List.append_assoc]
      rcases List.mem_cons.mp member with rfl | later
      · exact (List.prefix_append _ _).isInfix
      · exact (inductionHypothesis later).trans
          (List.suffix_append_of_suffix (List.suffix_append _ _)).isInfix

end SqlRecords.Text
