/-
This file says what becomes of a number when its text is read as a decimal. A digit behind the
point finds room, or it rounds what stands before it, and once a digit finds no room, a decimal
that is the whole number can only exist when nothing but zeros is left. So a number that some
decimal is becomes that number, whatever zeros stand at its end. Of the others, those that round
to `2 ^ 96` or more are refused, and the rest is rounded.
-/

import Mathlib.Algebra.Order.Field.Basic
import Mathlib.Algebra.Order.Field.Rat
import Mathlib.Tactic.Linarith
import Mathlib.Tactic.NormNum
import Mathlib.Tactic.Ring
import SqlRecords.Proofs.Number.DecimalText

namespace SqlRecords.Decimal

/-! ### Numbers -/

/-- The number that a decimal is. -/
def number (decimal : Decimal) : ℚ :=
  decimal.signedMantissa / 10 ^ decimal.scale

/-- The number that the digits behind a point are. -/
def behindPoint : List Char → ℚ
  | [] => 0
  | digit :: digits => ((digit.toNat - '0'.toNat : Nat) + behindPoint digits) / 10

/-- A decimal number as databases write it: a minus or none, and digits, perhaps with a point
among them. -/
structure Numeral where
  negative : Bool
  whole : List Char
  /-- the digits behind the point, if there is one -/
  fraction : Option (List Char)
  allDigits : ∀ digit ∈ whole ++ fraction.getD [], digit.isDigit = true
  nonempty : whole ++ fraction.getD [] ≠ []

namespace Numeral

/-- The text of a numeral behind its sign. -/
def unsigned (numeral : Numeral) : List Char :=
  numeral.whole ++
    (match numeral.fraction with
      | none => []
      | some digits => '.' :: digits)

/-- The text of a numeral. -/
def characters (numeral : Numeral) : List Char :=
  (if numeral.negative then ['-'] else []) ++ numeral.unsigned

/-- The absolute value of the number that a numeral spells. -/
def magnitude (numeral : Numeral) : ℚ :=
  Nat.ofDigitChars 10 numeral.whole 0 + behindPoint (numeral.fraction.getD [])

/-- The number that a numeral spells. -/
def number (numeral : Numeral) : ℚ :=
  if numeral.negative then -numeral.magnitude else numeral.magnitude

end Numeral

theorem digit_le_nine {digit : Char} (isDigit : digit.isDigit = true) :
    digit.toNat - '0'.toNat ≤ 9 := by
  obtain ⟨-, most⟩ := Char.isDigit_iff_toNat.mp isDigit
  have zero : '0'.toNat = 48 := rfl
  have nine : '9'.toNat = 57 := rfl
  omega

theorem behindPoint_nonneg (digits : List Char) : 0 ≤ behindPoint digits := by
  induction digits with
  | nil => exact le_refl _
  | cons digit digits inductionHypothesis =>
    exact div_nonneg (add_nonneg (Nat.cast_nonneg _) inductionHypothesis) (by norm_num)

theorem behindPoint_lt_one {digits : List Char}
    (allDigits : ∀ digit ∈ digits, digit.isDigit = true) : behindPoint digits < 1 := by
  induction digits with
  | nil => exact one_pos
  | cons digit digits inductionHypothesis =>
    obtain ⟨isDigit, further⟩ := List.forall_mem_cons.mp allDigits
    have most : ((digit.toNat - '0'.toNat : Nat) : ℚ) ≤ 9 := by
      exact_mod_cast digit_le_nine isDigit
    have rest := inductionHypothesis further
    rw [behindPoint, div_lt_one (by norm_num)]
    linarith

/-- The digits on both sides of a point are together those of a whole number. -/
theorem add_behindPoint (digits : List Char) (number : Nat) :
    number + behindPoint digits = Nat.ofDigitChars 10 digits number / 10 ^ digits.length := by
  induction digits generalizing number with
  | nil =>
    rw [behindPoint, add_zero, Nat.ofDigitChars_nil, List.length_nil, pow_zero, div_one]
  | cons digit digits inductionHypothesis =>
    rw [Nat.ofDigitChars_cons, List.length_cons, pow_succ, ← div_div, ← inductionHypothesis,
      behindPoint]
    push_cast
    ring

/-! ### What is read -/

/-- Whether some decimal has an absolute value. -/
def IsHeld (magnitude : ℚ) : Prop :=
  ∃ mantissa scale : Nat, mantissa < 2 ^ 96 ∧ scale ≤ 28 ∧ (mantissa : ℚ) / 10 ^ scale = magnitude

/-- Whether an absolute value rounds to more than any decimal has. -/
def IsTooGreat (magnitude : ℚ) : Prop :=
  2 ^ 96 - 1 / 2 ≤ magnitude

/-- What reading makes of an absolute value behind a sign. -/
inductive Reads (negative : Bool) (magnitude : ℚ) : Except TextError Decimal → Prop
  | exact {mantissa scale : Nat} (mantissa_lt : mantissa < 2 ^ 96) (scale_le : scale ≤ 28)
    (equal : (mantissa : ℚ) / 10 ^ scale = magnitude) :
    Reads negative magnitude (assemble negative mantissa scale)
  | refused (reason : TextError) (tooGreat : IsTooGreat magnitude) :
    Reads negative magnitude (.error reason)
  | rounded {mantissa scale : Nat} (mantissa_lt : mantissa < 2 ^ 96) (scale_le : scale ≤ 28)
    (notHeld : ¬IsHeld magnitude) (notTooGreat : ¬IsTooGreat magnitude)
    (close : |(mantissa : ℚ) / 10 ^ scale - magnitude| ≤ 1 / 2 / 10 ^ scale) :
    Reads negative magnitude (assemble negative mantissa scale)

section NoRoom

variable {mantissa scale digit : Nat} {rest : ℚ}

/-- Where a digit finds no room, a decimal can only be the whole number when nothing but zeros is
left. -/
theorem eq_zero_of_isHeld (noRoom : scale < 28 → 2 ^ 96 ≤ mantissa * 10 + digit)
    (least : (digit : ℚ) / 10 ≤ rest) (less : rest < 1)
    (held : IsHeld ((mantissa + rest) / 10 ^ scale)) : rest = 0 := by
  obtain ⟨other, otherScale, other_lt, otherScale_le, equal⟩ := held
  have nonneg : 0 ≤ rest := le_trans (div_nonneg (Nat.cast_nonneg _) (by norm_num)) least
  have positive (power : Nat) : (0 : ℚ) < 10 ^ power := pow_pos (by norm_num) power
  rcases Nat.lt_or_ge scale otherScale with more | few
  · -- a decimal with more digits behind the point than were read has too great a mantissa
    obtain ⟨further, rfl⟩ := Nat.exists_eq_add_of_lt more
    have grown : (other : ℚ) = (mantissa + rest) * 10 * 10 ^ further := by
      rw [div_eq_div_iff (positive _).ne' (positive _).ne'] at equal
      apply mul_right_cancel₀ (positive scale).ne'
      rw [equal]
      ring
    have least' : ((2 ^ 96 : Nat) : ℚ) ≤ mantissa * 10 + digit := by
      exact_mod_cast noRoom (by omega)
    have most : (other : ℚ) < (2 ^ 96 : Nat) := by exact_mod_cast other_lt
    have one_le : (1 : ℚ) ≤ 10 ^ further := one_le_pow₀ (by norm_num)
    have tenfold : (2 ^ 96 : Nat) ≤ (mantissa + rest) * 10 := by linarith
    have := le_mul_of_one_le_right (le_trans (Nat.cast_nonneg _) tenfold) one_le
    linarith
  · -- one with no more digits shows that what is left is whole
    obtain ⟨further, rfl⟩ := Nat.exists_eq_add_of_le few
    have whole : ((other * 10 ^ further : Nat) : ℚ) = mantissa + rest := by
      rw [div_eq_div_iff (positive _).ne' (positive _).ne'] at equal
      apply mul_right_cancel₀ (positive otherScale).ne'
      rw [← equal]
      push_cast
      ring
    have le : mantissa ≤ other * 10 ^ further := by
      have : (mantissa : ℚ) ≤ (other * 10 ^ further : Nat) := by linarith
      exact_mod_cast this
    have lt : other * 10 ^ further < mantissa + 1 := by
      have : ((other * 10 ^ further : Nat) : ℚ) < (mantissa + 1 : Nat) := by
        push_cast at whole ⊢
        linarith
      exact_mod_cast this
    rw [show other * 10 ^ further = mantissa by omega] at whole
    linarith

theorem not_isTooGreat (least : 0 ≤ rest) (less : mantissa + rest < 2 ^ 96 - 1 / 2) :
    ¬IsTooGreat ((mantissa + rest) / 10 ^ scale) := by
  have nonneg : 0 ≤ mantissa + rest := add_nonneg (Nat.cast_nonneg _) least
  exact not_le.mpr (lt_of_le_of_lt (div_le_self nonneg (one_le_pow₀ (by norm_num))) less)

theorem abs_div_sub_div_le {first second : ℚ} (close : |first - second| ≤ 1 / 2) :
    |first / 10 ^ scale - second / 10 ^ scale| ≤ 1 / 2 / 10 ^ scale := by
  have positive : (0 : ℚ) < 10 ^ scale := pow_pos (by norm_num) scale
  rw [← sub_div, abs_div, abs_of_pos positive]
  exact div_le_div_of_nonneg_right close positive.le

/-- The first digit for which there is no room rounds what was read, or refuses a number that is
too great. -/
theorem reads_roundBy (negative : Bool) (mantissa_lt : mantissa < 2 ^ 96) (scale_le : scale ≤ 28)
    (noRoom : scale < 28 → 2 ^ 96 ≤ mantissa * 10 + digit) (digit_le : digit ≤ 9)
    (least : (digit : ℚ) / 10 ≤ rest) (less : rest < (digit + 1) / 10) :
    Reads negative ((mantissa + rest) / 10 ^ scale) (roundBy negative mantissa scale digit) := by
  have nonneg : 0 ≤ rest := le_trans (div_nonneg (Nat.cast_nonneg _) (by norm_num)) least
  have most : (digit : ℚ) ≤ 9 := by exact_mod_cast digit_le
  have le : (mantissa : ℚ) + 1 ≤ 2 ^ 96 := by exact_mod_cast mantissa_lt
  have held := eq_zero_of_isHeld noRoom least (by linarith)
  unfold roundBy
  split
  case isTrue low =>
    have below : (digit : ℚ) + 1 ≤ 5 := by exact_mod_cast low
    by_cases nothing : rest = 0
    case pos =>
      rw [nothing, add_zero]
      exact .exact mantissa_lt scale_le rfl
    case neg =>
      refine .rounded mantissa_lt scale_le (mt held nothing)
        (not_isTooGreat nonneg (by linarith)) (abs_div_sub_div_le ?_)
      rw [sub_add_cancel_left, abs_neg, abs_of_nonneg nonneg]
      linarith
  case isFalse high =>
    have half : (5 : ℚ) ≤ digit := by exact_mod_cast Nat.not_lt.mp high
    have notHeld := mt held (by linarith : rest ≠ 0)
    split
    case isTrue up =>
      have room : (mantissa : ℚ) + 1 + 1 ≤ 2 ^ 96 := by exact_mod_cast up
      refine .rounded up scale_le notHeld (not_isTooGreat nonneg (by linarith))
        (abs_div_sub_div_le ?_)
      rw [Nat.cast_add_one, add_sub_add_left_eq_sub, abs_of_nonneg (by linarith)]
      linarith
    case isFalse full =>
      have greatest : mantissa = 79228162514264337593543950335 := by
        have : ¬mantissa + 1 < 79228162514264337593543950336 := full
        omega
      subst greatest
      split
      case isTrue whole =>
        subst whole
        refine .refused _ ?_
        show 2 ^ 96 - 1 / 2 ≤ _ / 10 ^ 0
        rw [pow_zero, div_one]
        push_cast
        linarith
      case isFalse behind =>
        obtain ⟨scale, rfl⟩ := Nat.exists_eq_succ_of_ne_zero behind
        -- the last digit goes, so what is left counts ten times as much
        rw [Nat.succ_eq_add_one, pow_succ', ← div_div] at notHeld ⊢
        have shorter : (((79228162514264337593543950335 : Nat) : ℚ) + rest) / 10 =
            (7922816251426433759354395033 : Nat) + (5 + rest) / 10 := by
          push_cast
          linarith
        rw [shorter] at notHeld ⊢
        refine .rounded (by decide) (by omega) notHeld
          (not_isTooGreat (by linarith) (by push_cast; linarith)) (abs_div_sub_div_le ?_)
        rw [abs_of_nonneg] <;> push_cast <;> linarith

end NoRoom

/-! ### Texts -/

section Texts

variable {digits : List Char} {mantissa scale : Nat}

theorem checkRest_digits (allDigits : ∀ digit ∈ digits, digit.isDigit = true) :
    checkRest digits = .ok () := by
  induction digits with
  | nil => rfl
  | cons digit digits inductionHypothesis =>
    obtain ⟨isDigit, further⟩ := List.forall_mem_cons.mp allDigits
    rw [checkRest, isDigit, Bool.true_or, if_pos rfl]
    exact inductionHypothesis further

/-- The digits behind the point are read into the number that they spell together with what was
read before them. -/
theorem reads_fraction (negative : Bool) {digitRead : Bool}
    (someDigit : digitRead = true ∨ digits ≠ [])
    (allDigits : ∀ digit ∈ digits, digit.isDigit = true) (mantissa_lt : mantissa < 2 ^ 96)
    (scale_le : scale ≤ 28) :
    Reads negative ((mantissa + behindPoint digits) / 10 ^ scale)
      (readPlain negative ⟨mantissa, scale, true, digitRead⟩ digits) := by
  induction digits generalizing mantissa scale digitRead with
  | nil =>
    rw [someDigit.resolve_right (· rfl), behindPoint, add_zero]
    exact .exact mantissa_lt scale_le rfl
  | cons digit digits inductionHypothesis =>
    obtain ⟨isDigit, further⟩ := List.forall_mem_cons.mp allDigits
    have value_le := digit_le_nine isDigit
    rw [readPlain, if_pos isDigit, behindPoint, checkRest_digits further]
    dsimp only
    rw [if_pos rfl]
    generalize digit.toNat - '0'.toNat = value at value_le ⊢
    split
    case isTrue room =>
      rw [Reading.hasRoom, Bool.and_eq_true, decide_eq_true_eq, decide_eq_true_eq] at room
      have shifted : (mantissa + (value + behindPoint digits) / 10) / 10 ^ scale =
          ((mantissa * 10 + value : Nat) + behindPoint digits) / 10 ^ (scale + 1) := by
        rw [pow_succ', ← div_div]
        push_cast
        ring
      rw [shifted]
      exact inductionHypothesis (.inl rfl) further room.2 room.1
    case isFalse noRoom =>
      rw [Reading.hasRoom, Bool.and_eq_true, decide_eq_true_eq, decide_eq_true_eq,
        not_and] at noRoom
      have nonneg := behindPoint_nonneg digits
      have less := behindPoint_lt_one further
      exact reads_roundBy negative mantissa_lt scale_le (fun few => Nat.not_lt.mp (noRoom few))
        value_le (by linarith) (by linarith)

/-- Digits before the point that give too great a number are refused. -/
theorem readPlain_tooManyDigits (negative digitRead : Bool)
    (allDigits : ∀ digit ∈ digits, digit.isDigit = true) (mantissa_lt : mantissa < 2 ^ 96)
    (tooGreat : 2 ^ 96 ≤ Nat.ofDigitChars 10 digits mantissa) (rest : List Char) :
    readPlain negative ⟨mantissa, 0, false, digitRead⟩ (digits ++ rest) =
      .error .tooManyDigits := by
  induction digits generalizing mantissa digitRead with
  | nil => exact absurd mantissa_lt (Nat.not_lt.mpr tooGreat)
  | cons digit digits inductionHypothesis =>
    obtain ⟨isDigit, further⟩ := List.forall_mem_cons.mp allDigits
    rw [Nat.ofDigitChars_cons, Nat.mul_comm] at tooGreat
    rw [List.cons_append, readPlain, if_pos isDigit]
    dsimp only
    rw [if_neg Bool.false_ne_true]
    split
    case isTrue room => exact inductionHypothesis true further room tooGreat
    case isFalse => rfl

end Texts

namespace Numeral

variable (numeral : Numeral)

theorem isDigit_of_mem_whole (digit : Char) (member : digit ∈ numeral.whole) :
    digit.isDigit = true :=
  numeral.allDigits digit (List.mem_append_left _ member)

theorem isDigit_of_mem_fraction (digit : Char) (member : digit ∈ numeral.fraction.getD []) :
    digit.isDigit = true :=
  numeral.allDigits digit (List.mem_append_right _ member)

/-- The text behind the sign is read into the absolute value. -/
theorem reads_unsigned (negative : Bool) :
    Reads negative numeral.magnitude (readPlain negative .start numeral.unsigned) := by
  have nonneg := behindPoint_nonneg (numeral.fraction.getD [])
  have someDigit : (!numeral.whole.isEmpty) = true ∨ numeral.fraction.getD [] ≠ [] := by
    by_cases empty : numeral.whole = []
    · exact .inr fun nothing => numeral.nonempty (by rw [empty, nothing]; rfl)
    · exact .inl (by rw [List.isEmpty_eq_false_iff.mpr empty]; rfl)
  have wholeDigits := numeral.isDigit_of_mem_whole
  have fractionDigits := numeral.isDigit_of_mem_fraction
  unfold unsigned magnitude
  rcases Nat.lt_or_ge (Nat.ofDigitChars 10 numeral.whole 0) (2 ^ 96) with fits | tooGreat
  · rw [Reading.start, readPlain_whole negative false wholeDigits fits, Bool.false_or]
    cases fraction : numeral.fraction with
    | none =>
      rw [fraction] at someDigit
      rw [someDigit.resolve_right (· rfl), Option.getD_none, behindPoint, add_zero]
      exact .exact fits (Nat.zero_le _) (div_one _)
    | some digits =>
      rw [fraction] at someDigit fractionDigits
      have reads := reads_fraction negative someDigit fractionDigits fits (Nat.zero_le _)
      rw [pow_zero, div_one] at reads
      exact reads
  · rw [Reading.start, readPlain_tooManyDigits negative false wholeDigits (by decide) tooGreat]
    have great : (2 ^ 96 : ℚ) ≤ Nat.ofDigitChars 10 numeral.whole 0 := by exact_mod_cast tooGreat
    refine .refused _ (show _ ≤ _ from ?_)
    linarith

theorem eq_mark_or_isDigit {character : Char} (member : character ∈ numeral.characters) :
    character = '-' ∨ character = '.' ∨ character.isDigit = true := by
  unfold characters unsigned at member
  rw [List.mem_append, List.mem_append] at member
  rcases member with sign | whole | behind
  · split at sign
    · exact .inl (List.mem_singleton.mp sign)
    · cases sign
  · exact .inr (.inr (numeral.isDigit_of_mem_whole character whole))
  · have digits := numeral.isDigit_of_mem_fraction
    split at behind
    · cases behind
    · rename_i fraction
      rw [fraction] at digits
      rcases List.mem_cons.mp behind with rfl | digit
      · exact .inr (.inl rfl)
      · exact .inr (.inr (digits character digit))

/-- Behind a sign or without one, a numeral is read from its first digit or its point on. -/
theorem ofPlainText_characters :
    ofPlainText numeral.characters = readPlain numeral.negative .start numeral.unsigned := by
  unfold characters
  cases numeral.negative with
  | true => rfl
  | false =>
    show ofPlainText numeral.unsigned = _
    have digits := numeral.isDigit_of_mem_whole
    have nonempty := numeral.nonempty
    unfold unsigned
    cases whole : numeral.whole with
    | nil =>
      cases fraction : numeral.fraction with
      | none =>
        rw [whole, fraction] at nonempty
        exact absurd rfl nonempty
      | some => rfl
    | cons digit others =>
      rw [whole] at digits
      exact ofPlainText_of_isDigit (digits digit List.mem_cons_self) _

/-- No numeral has an exponent. -/
theorem ofText_characters :
    Decimal.ofText numeral.characters = readPlain numeral.negative .start numeral.unsigned := by
  have noMark : ∀ character ∈ numeral.characters, (!isExponentMark character) = true := by
    intro character member
    rcases numeral.eq_mark_or_isDigit member with rfl | rfl | isDigit
    · rfl
    · rfl
    · obtain ⟨-, most⟩ := Char.isDigit_iff_toNat.mp isDigit
      have other {mark : Char} (great : '9'.toNat < mark.toNat) : (character == mark) = false := by
        rw [beq_eq_false_iff_ne]
        rintro rfl
        exact absurd most (Nat.not_le.mpr great)
      unfold isExponentMark
      rw [other (by decide), other (by decide)]
      rfl
  rw [← ofPlainText_characters]
  unfold Decimal.ofText
  rw [List.dropWhile_eq_nil_iff.mpr noMark]
  split
  case h_1 read => rw [read]
  case h_2 read => rw [read]

/-- A numeral is read into the number that it spells. -/
theorem reads_characters :
    Reads numeral.negative numeral.magnitude (Decimal.ofText numeral.characters) := by
  rw [ofText_characters]
  exact numeral.reads_unsigned _

end Numeral

/-! ### Signs -/

section Signs

variable {negative : Bool} {mantissa scale : Nat}

theorem exists_assemble_eq (mantissa_lt : mantissa < 2 ^ 96) (scale_le : scale ≤ 28) :
    ∃ decimal : Decimal, assemble negative mantissa scale = .ok decimal ∧ decimal.scale = scale ∧
      decimal.number =
        if negative then -((mantissa : ℚ) / 10 ^ scale) else mantissa / 10 ^ scale := by
  refine ⟨⟨negative && mantissa != 0, mantissa, scale, mantissa_lt, scale_le⟩, ?_, rfl, ?_⟩
  · unfold assemble ofParts?
    rw [dif_pos ⟨mantissa_lt, scale_le⟩]
  · by_cases zero : mantissa = 0
    · simp [number, signedMantissa, zero]
    · cases negative <;> simp [number, signedMantissa, zero, neg_div]

theorem abs_number (decimal : Decimal) :
    |decimal.number| = decimal.mantissa / 10 ^ decimal.scale := by
  have nonneg : (0 : ℚ) ≤ decimal.mantissa / 10 ^ decimal.scale :=
    div_nonneg (Nat.cast_nonneg _) (pow_nonneg (by norm_num) _)
  unfold number signedMantissa
  cases decimal.negative with
  | true => simp [neg_div, abs_of_nonneg nonneg]
  | false => simp [abs_of_nonneg nonneg]

end Signs

namespace Numeral

variable {Failure Result Other OtherFailure : Type}

/-- What the result is when a numeral is read: a decimal that is its number if there is one, no
decimal at all if the number rounds to more than any decimal, and otherwise a decimal that is not
its number, but is off by at most half of its own last place. -/
structure IsRead (numeral : Numeral) (give : Decimal → Result) (result : Except Failure Result) :
    Prop where
  exact (fits : ∃ decimal : Decimal, decimal.number = numeral.number) :
    ∃ decimal : Decimal, result = .ok (give decimal) ∧ decimal.number = numeral.number
  refused (tooGreat : 2 ^ 96 - 1 / 2 ≤ |numeral.number|) : ∃ reason, result = .error reason
  rounded (fitsNone : ¬∃ decimal : Decimal, decimal.number = numeral.number)
    (small : |numeral.number| < 2 ^ 96 - 1 / 2) :
    ∃ decimal : Decimal, result = .ok (give decimal) ∧
      |decimal.number - numeral.number| ≤ 1 / 2 / 10 ^ decimal.scale

variable (numeral : Numeral)

theorem magnitude_nonneg : 0 ≤ numeral.magnitude :=
  add_nonneg (Nat.cast_nonneg _) (behindPoint_nonneg _)

theorem abs_number : |numeral.number| = numeral.magnitude := by
  unfold number
  split
  · rw [abs_neg, abs_of_nonneg numeral.magnitude_nonneg]
  · rw [abs_of_nonneg numeral.magnitude_nonneg]

theorem magnitude_eq :
    numeral.magnitude = Nat.ofDigitChars 10 (numeral.whole ++ numeral.fraction.getD []) 0 /
      10 ^ (numeral.fraction.getD []).length := by
  rw [Nat.ofDigitChars_append, ← add_behindPoint, magnitude]

theorem isHeld_of_fits (fits : ∃ decimal : Decimal, decimal.number = numeral.number) :
    IsHeld numeral.magnitude := by
  obtain ⟨decimal, equal⟩ := fits
  refine ⟨decimal.mantissa, decimal.scale, decimal.mantissa_lt, decimal.scale_le, ?_⟩
  rw [← Decimal.abs_number, equal, abs_number]

/-- A number with more than twenty-eight digits behind the point, the last of them not zero, is no
decimal. -/
theorem not_fits_of_long (long : 28 < (numeral.fraction.getD []).length)
    (last : Nat.ofDigitChars 10 (numeral.whole ++ numeral.fraction.getD []) 0 % 10 ≠ 0) :
    ¬∃ decimal : Decimal, decimal.number = numeral.number := by
  intro fits
  obtain ⟨mantissa, scale, -, scale_le, equal⟩ := numeral.isHeld_of_fits fits
  obtain ⟨further, length⟩ := Nat.exists_eq_add_of_lt (Nat.lt_of_le_of_lt scale_le long)
  have positive (power : Nat) : (0 : ℚ) < 10 ^ power := pow_pos (by norm_num) power
  rw [magnitude_eq, length, div_eq_div_iff (positive _).ne' (positive _).ne', pow_succ, pow_add]
    at equal
  have shorter : mantissa * 10 ^ further * 10 =
      Nat.ofDigitChars 10 (numeral.whole ++ numeral.fraction.getD []) 0 := by
    have cancelled := mul_right_cancel₀ (positive scale).ne'
      (show (mantissa * 10 ^ further * 10 : ℚ) * 10 ^ scale = _ * 10 ^ scale by
        rw [← equal]
        ring)
    exact_mod_cast cancelled
  omega

/-- A number that rounds to more than any decimal is no decimal. -/
theorem not_isTooGreat_of_isHeld {magnitude : ℚ} (held : IsHeld magnitude) :
    ¬IsTooGreat magnitude := by
  obtain ⟨mantissa, scale, mantissa_lt, -, rfl⟩ := held
  have most : (mantissa : ℚ) + 1 ≤ 2 ^ 96 := by exact_mod_cast mantissa_lt
  have small : ¬IsTooGreat ((mantissa + 0) / 10 ^ scale) :=
    not_isTooGreat (le_refl 0) (by linarith)
  rwa [add_zero] at small

/-- A decimal with the sign of a numeral is as far from its number as their absolute values are
from each other. -/
theorem abs_sub_number {decimal : Decimal} {magnitude : ℚ}
    (value : decimal.number = if numeral.negative then -magnitude else magnitude) :
    |decimal.number - numeral.number| = |magnitude - numeral.magnitude| := by
  rw [value, number]
  cases numeral.negative with
  | true =>
    rw [if_pos rfl, if_pos rfl, neg_sub_neg]
    exact abs_sub_comm _ _
  | false => rfl

/-- A numeral is read into its number, refused or rounded. -/
theorem isRead_ofText : numeral.IsRead id (Decimal.ofText numeral.characters) := by
  have reads := numeral.reads_characters
  generalize Decimal.ofText numeral.characters = result at reads ⊢
  cases reads with
  | exact mantissa_lt scale_le equal =>
    obtain ⟨decimal, assembled, -, value⟩ := exists_assemble_eq mantissa_lt scale_le
    have same : decimal.number = numeral.number := by rw [value, equal, number]
    have held : IsHeld numeral.magnitude := ⟨_, _, mantissa_lt, scale_le, equal⟩
    rw [assembled]
    refine ⟨fun _ => ⟨decimal, rfl, same⟩, fun tooGreat => ?_, fun fitsNone _ => ?_⟩
    · rw [abs_number] at tooGreat
      exact absurd tooGreat (not_isTooGreat_of_isHeld held)
    · exact absurd ⟨decimal, same⟩ fitsNone
  | refused reason tooGreat =>
    refine ⟨fun fits => ?_, fun _ => ⟨reason, rfl⟩, fun _ small => ?_⟩
    · exact absurd tooGreat (not_isTooGreat_of_isHeld (numeral.isHeld_of_fits fits))
    · rw [abs_number] at small
      exact absurd tooGreat (not_le.mpr small)
  | rounded mantissa_lt scale_le notHeld notTooGreat close =>
    obtain ⟨decimal, assembled, scale, value⟩ := exists_assemble_eq mantissa_lt scale_le
    rw [assembled]
    refine ⟨fun fits => ?_, fun tooGreat => ?_, fun _ _ => ⟨decimal, rfl, ?_⟩⟩
    · exact absurd (numeral.isHeld_of_fits fits) notHeld
    · rw [abs_number] at tooGreat
      exact absurd tooGreat notTooGreat
    · rw [numeral.abs_sub_number value, scale]
      exact close

/-- What is done with the decimal afterwards, and how a failure is reported, does not matter. -/
theorem IsRead.map {numeral : Numeral} {give : Decimal → Result} {result : Except Failure Result}
    (isRead : numeral.IsRead give result) (next : Result → Other)
    (report : Failure → OtherFailure) :
    numeral.IsRead (next ∘ give) ((result.map next).mapError report) where
  exact fits := by
    obtain ⟨decimal, rfl, equal⟩ := isRead.exact fits
    exact ⟨decimal, rfl, equal⟩
  refused tooGreat := by
    obtain ⟨reason, rfl⟩ := isRead.refused tooGreat
    exact ⟨report reason, rfl⟩
  rounded fitsNone small := by
    obtain ⟨decimal, rfl, close⟩ := isRead.rounded fitsNone small
    exact ⟨decimal, rfl, close⟩

end Numeral

end SqlRecords.Decimal
