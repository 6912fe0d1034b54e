/-
This file says what trimming leaves of a text: the part between what was removed at its two ends,
and just that part when nothing is to be removed at the part's own ends.
-/

import Mathlib.Data.List.DropRight
import SqlRecords.Text.Blank

namespace SqlRecords

/-! ### White space -/

theorem isBlank_of_visible {character : Char} (least : 33 ≤ character.toNat)
    (greatest : character.toNat ≤ 126) : Text.isBlank character = false := by
  have apart : ∀ range ∈ Text.blankRanges, range.2 < 33 ∨ 126 < range.1 := by decide
  unfold Text.isBlank Text.CodeRanges.covers
  refine List.any_eq_false.mpr fun range member inside => ?_
  rw [Bool.and_eq_true, decide_eq_true_eq, decide_eq_true_eq] at inside
  have outside := apart range member
  omega

theorem isBlank_of_isDigit {character : Char} (isDigit : character.isDigit = true) :
    Text.isBlank character = false := by
  obtain ⟨least, greatest⟩ := Char.isDigit_iff_toNat.mp isDigit
  exact isBlank_of_visible (Nat.le_trans (by decide) least) (Nat.le_trans greatest (by decide))

/-! ### Trimming -/

section Trimming

variable {removed : Char → Bool} {before inner after : List Char}

theorem dropWhile_eq_self (kept : ∀ character ∈ inner.head?, removed character = false) :
    inner.dropWhile removed = inner := by
  cases inner with
  | nil => rfl
  | cons character rest =>
    exact List.dropWhile_cons_of_neg (by rw [kept character rfl]; exact Bool.false_ne_true)

theorem dropWhile_append_kept (allRemoved : ∀ character ∈ before, removed character = true)
    (kept : ∀ character ∈ inner.head?, removed character = false) :
    (before ++ inner).dropWhile removed = inner := by
  rw [List.dropWhile_append_of_pos allRemoved, dropWhile_eq_self kept]

theorem dropEnd_append (removedAfter : ∀ character ∈ after, removed character = true)
    (last : ∀ character ∈ inner.getLast?, removed character = false) :
    Text.dropEnd removed (inner ++ after) = inner := by
  unfold Text.dropEnd
  rw [List.reverse_append, dropWhile_append_kept, List.reverse_reverse]
  · exact fun character member => removedAfter character (List.mem_reverse.mp member)
  · rwa [List.head?_reverse]

theorem exists_behind_dropEnd (removed : Char → Bool) (characters : List Char) :
    ∃ after, characters = Text.dropEnd removed characters ++ after ∧
      ∀ character ∈ after, removed character = true :=
  ⟨characters.rtakeWhile removed, List.rdropWhile_append_rtakeWhile.symm,
    fun _ member => List.mem_rtakeWhile_imp member⟩

theorem kept_of_mem_getLast?_dropEnd (removed : Char → Bool) (characters : List Char) :
    ∀ character ∈ (Text.dropEnd removed characters).getLast?, removed character = false := by
  intro character last
  obtain ⟨nonempty, rfl⟩ := List.mem_getLast?_eq_getLast last
  exact eq_false_of_ne_true (List.rdropWhile_last_not removed characters nonempty)

theorem strip_eq_self (first : ∀ character ∈ inner.head?, removed character = false)
    (last : ∀ character ∈ inner.getLast?, removed character = false) :
    Text.strip removed inner = inner := by
  have whole : Text.dropEnd removed (inner ++ []) = inner :=
    dropEnd_append (List.forall_mem_nil _) last
  rw [List.append_nil] at whole
  unfold Text.strip Text.dropStart
  rw [dropWhile_eq_self first, whole]

theorem strip_append (nonempty : inner ≠ [])
    (removedBefore : ∀ character ∈ before, removed character = true)
    (removedAfter : ∀ character ∈ after, removed character = true)
    (first : ∀ character ∈ inner.head?, removed character = false)
    (last : ∀ character ∈ inner.getLast?, removed character = false) :
    Text.strip removed (before ++ inner ++ after) = inner := by
  have start : (before ++ inner ++ after).dropWhile removed = inner ++ after := by
    rw [List.append_assoc]
    refine dropWhile_append_kept removedBefore ?_
    rwa [List.head?_append, List.head?_eq_some_head nonempty, Option.some_or,
      ← List.head?_eq_some_head nonempty]
  unfold Text.strip Text.dropStart
  rw [start, dropEnd_append removedAfter last]

theorem trim_ofList (nonempty : inner ≠ [])
    (blankBefore : ∀ character ∈ before, Text.isBlank character = true)
    (blankAfter : ∀ character ∈ after, Text.isBlank character = true)
    (first : ∀ character ∈ inner.head?, Text.isBlank character = false)
    (last : ∀ character ∈ inner.getLast?, Text.isBlank character = false) :
    Text.trim (String.ofList (before ++ inner ++ after)) = String.ofList inner := by
  unfold Text.trim
  rw [String.toList_ofList, strip_append nonempty blankBefore blankAfter first last]

theorem exists_around_strip (removed : Char → Bool) (characters : List Char) :
    ∃ before after, characters = before ++ Text.strip removed characters ++ after ∧
      (∀ character ∈ before, removed character = true) ∧
      ∀ character ∈ after, removed character = true := by
  obtain ⟨after, cut, removedAfter⟩ :=
    exists_behind_dropEnd removed (characters.dropWhile removed)
  refine ⟨characters.takeWhile removed, after, ?_, ?_, removedAfter⟩
  · show characters = _ ++ Text.dropEnd removed (characters.dropWhile removed) ++ _
    rw [List.append_assoc, ← cut, List.takeWhile_append_dropWhile]
  · exact fun character member => List.mem_takeWhile_imp member

end Trimming

end SqlRecords
