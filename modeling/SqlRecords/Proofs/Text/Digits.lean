/-
This file says what rows of decimal digits are made of and which number they are read as. A number
that is written with zeros in front is read as that number, and takes just the given width when it
fits there.
-/

import Mathlib.Algebra.Group.Nat.Defs
import Mathlib.Data.Nat.Init
import SqlRecords.Text.Digits

namespace SqlRecords

/-! ### The characters of a row of digits -/

theorem isDigit_of_mem_zeros {count : Nat} {character : Char}
    (member : character ∈ List.replicate count '0') : character.isDigit = true := by
  rw [List.eq_of_mem_replicate member]
  rfl

theorem isDigit_of_mem_toDigits {number : Nat} {character : Char}
    (member : character ∈ Nat.toDigits 10 number) : character.isDigit = true :=
  Nat.isDigit_of_mem_toDigits (by decide) (by decide) member

theorem isDigit_of_mem_zeroPadded {width number : Nat} {character : Char}
    (member : character ∈ Text.zeroPadded width number) : character.isDigit = true := by
  rcases List.mem_append.mp member with zero | digit
  · exact isDigit_of_mem_zeros zero
  · exact isDigit_of_mem_toDigits digit

theorem zeroPadded_zero (number : Nat) : Text.zeroPadded 0 number = Nat.toDigits 10 number := by
  show List.replicate (0 - _) '0' ++ _ = _
  rw [Nat.zero_sub, List.replicate_zero, List.nil_append]

theorem zeroPadded_ne_nil {width number : Nat} : Text.zeroPadded width number ≠ [] :=
  List.append_ne_nil_of_right_ne_nil _ Nat.toDigits_ne_nil

theorem isDigit_of_mem_head? {width number : Nat} {rest : List Char} {character : Char}
    (first : character ∈ (Text.zeroPadded width number ++ rest).head?) :
    character.isDigit = true := by
  rw [List.head?_append, List.head?_eq_some_head zeroPadded_ne_nil, Option.some_or] at first
  cases first
  exact isDigit_of_mem_zeroPadded (List.head_mem zeroPadded_ne_nil)

theorem isDigit_of_mem_getLast? {width number : Nat} {front : List Char} {character : Char}
    (last : character ∈ (front ++ Text.zeroPadded width number).getLast?) :
    character.isDigit = true := by
  rw [List.getLast?_append, List.getLast?_eq_some_getLast zeroPadded_ne_nil, Option.some_or] at last
  cases last
  exact isDigit_of_mem_zeroPadded (List.getLast_mem zeroPadded_ne_nil)

theorem length_zeroPadded {width number : Nat} (positive : 0 < width)
    (fits : number < 10 ^ width) : (Text.zeroPadded width number).length = width := by
  have short : (Nat.toDigits 10 number).length ≤ width :=
    (Nat.length_toDigits_le_iff (by decide) positive).mpr fits
  unfold Text.zeroPadded
  rw [List.length_append, List.length_replicate, Nat.sub_add_cancel short]

theorem zeroPadded_eq (width number : Nat) :
    Text.zeroPadded width number =
      List.replicate (width - (Nat.toDigits 10 number).length) '0' ++ Nat.toDigits 10 number :=
  rfl

/-- A number with no fewer digits than the width is written without zeros in front. -/
theorem zeroPadded_of_le {width number : Nat} (long : width ≤ (Nat.toDigits 10 number).length) :
    Text.zeroPadded width number = Nat.toDigits 10 number := by
  rw [zeroPadded_eq, Nat.sub_eq_zero_of_le long, List.replicate_zero, List.nil_append]

/-- The last digit of a number stands behind the digits of the others. -/
theorem zeroPadded_succ {width : Nat} (positive : 0 < width) (number : Nat) :
    Text.zeroPadded (width + 1) number =
      Text.zeroPadded width (number / 10) ++ [(number % 10).digitChar] := by
  rw [zeroPadded_eq, zeroPadded_eq]
  by_cases single : number < 10
  case pos =>
    obtain ⟨less, rfl⟩ := Nat.exists_eq_add_one_of_ne_zero (Nat.ne_of_gt positive)
    rw [Nat.toDigits_of_lt_base single, Nat.div_eq_of_lt single, Nat.mod_eq_of_lt single,
      Nat.toDigits_of_lt_base (by decide : 0 < 10)]
    show List.replicate (less + 1) '0' ++ _ = List.replicate less '0' ++ ['0'] ++ _
    rw [List.replicate_succ']
  case neg =>
    have further := Nat.toDigits_of_base_le (by decide : 1 < 10) (Nat.not_lt.mp single)
    rw [further, List.length_append, List.length_singleton, Nat.add_sub_add_right,
      List.append_assoc]

/-! ### Rows without zeros at their end -/

theorem dropEndZeros_append_zero {digits : List Char} (nonempty : digits ≠ []) :
    Text.dropEndZeros (digits ++ ['0']) = Text.dropEndZeros digits := by
  cases digits with
  | nil => exact absurd rfl nonempty
  | cons digit rest =>
    show digit :: ((rest ++ ['0']).reverse.dropWhile (· == '0')).reverse = _
    rw [List.reverse_append]
    rfl

theorem dropEndZeros_append_other (digits : List Char) {last : Char} (other : last ≠ '0') :
    Text.dropEndZeros (digits ++ [last]) = digits ++ [last] := by
  cases digits with
  | nil => rfl
  | cons digit rest =>
    simp [Text.dropEndZeros, other]

theorem zeroPadded_one {number : Nat} (single : number < 10) :
    Text.zeroPadded 1 number = [number.digitChar] := by
  rw [zeroPadded_of_le Nat.length_toDigits_pos, Nat.toDigits_of_lt_base single]

theorem digitChar_mod_ne_zero {number : Nat} (nonzero : number % 10 ≠ 0) :
    (number % 10).digitChar ≠ '0' := by
  have each : ∀ digit < 10, digit ≠ 0 → digit.digitChar ≠ '0' := by decide
  exact each _ (Nat.mod_lt _ (by decide)) nonzero

/-- Without the zeros at its end, a number of a width is that of a smaller width, of which no
more than zeros was left out. -/
theorem exists_dropEndZeros_zeroPadded {width number : Nat} (positive : 0 < width)
    (fits : number < 10 ^ width) :
    ∃ dropped < width, 10 ^ dropped ∣ number ∧
      Text.dropEndZeros (Text.zeroPadded width number) =
        Text.zeroPadded (width - dropped) (number / 10 ^ dropped) := by
  induction width, positive using Nat.le_induction generalizing number with
  | base =>
    refine ⟨0, Nat.one_pos, Nat.one_dvd _, ?_⟩
    rw [Nat.pow_zero, Nat.div_one, Nat.sub_zero, zeroPadded_one fits]
    rfl
  | succ width positive inductionHypothesis =>
    by_cases zero : number % 10 = 0
    case pos =>
      have few : number / 10 < 10 ^ width := Nat.div_lt_of_lt_mul (by rwa [← Nat.pow_succ'])
      obtain ⟨dropped, less, divides, equal⟩ := inductionHypothesis few
      refine ⟨dropped + 1, Nat.succ_lt_succ less, ?_, ?_⟩
      · rw [Nat.pow_succ', ← Nat.mul_div_cancel' (Nat.dvd_of_mod_eq_zero zero)]
        exact Nat.mul_dvd_mul_left 10 divides
      · rw [zeroPadded_succ positive, zero, Nat.add_sub_add_right, Nat.pow_succ',
          ← Nat.div_div_eq_div_mul]
        exact (dropEndZeros_append_zero zeroPadded_ne_nil).trans equal
    case neg =>
      refine ⟨0, Nat.succ_pos _, Nat.one_dvd _, ?_⟩
      rw [Nat.pow_zero, Nat.div_one, Nat.sub_zero, zeroPadded_succ positive]
      exact dropEndZeros_append_other _ (digitChar_mod_ne_zero zero)

/-! ### The number of a row of digits -/

theorem ofDigitChars_zeroPadded (width number : Nat) :
    Nat.ofDigitChars 10 (Text.zeroPadded width number) 0 = number := by
  unfold Text.zeroPadded
  rw [Nat.ofDigitChars_append, Nat.ofDigitChars_replicate_zero, Nat.mul_zero,
    Nat.ofDigitChars_ten_toDigits]

/-- Further digits never make a number smaller. -/
theorem le_ofDigitChars (digits : List Char) (number : Nat) :
    number ≤ Nat.ofDigitChars 10 digits number := by
  induction digits generalizing number with
  | nil => exact Nat.le_refl _
  | cons digit digits inductionHypothesis =>
    rw [Nat.ofDigitChars_cons]
    have longer : number ≤ 10 * number + (digit.toNat - '0'.toNat) := by omega
    exact Nat.le_trans longer (inductionHypothesis _)

end SqlRecords
