/-
This file proves that a stored decimal is read back from its own text. The digits before and behind
the point are together those of the mantissa, so what has been read is never greater than it, and
there is room for every digit: no text of a decimal is rounded. The sign of a zero is all that is
lost, and it does not count in comparisons.
-/

import SqlRecords.Number.Decimal.Reader
import SqlRecords.Proofs.Text.Blank
import SqlRecords.Proofs.Text.Digits

namespace SqlRecords.Decimal

/-! ### Digits -/

section Digits

variable {digits rest : List Char} {mantissa scale : Nat}

/-- Digits before the point are taken when the number that they all give has room. -/
theorem readPlain_whole (negative digitRead : Bool)
    (allDigits : ∀ digit ∈ digits, digit.isDigit = true)
    (fits : Nat.ofDigitChars 10 digits mantissa < Nat.pow 2 96) :
    readPlain negative ⟨mantissa, 0, false, digitRead⟩ (digits ++ rest) =
      readPlain negative
        ⟨Nat.ofDigitChars 10 digits mantissa, 0, false, digitRead || !digits.isEmpty⟩ rest := by
  induction digits generalizing mantissa digitRead with
  | nil =>
    rw [List.isEmpty_nil, Bool.not_true, Bool.or_false]
    rfl
  | cons digit digits inductionHypothesis =>
    obtain ⟨isDigit, further⟩ := List.forall_mem_cons.mp allDigits
    rw [Nat.ofDigitChars_cons] at fits ⊢
    have room := Nat.lt_of_le_of_lt (le_ofDigitChars digits _) fits
    rw [List.cons_append, readPlain, if_pos isDigit]
    dsimp only
    rw [if_neg Bool.false_ne_true, Nat.mul_comm mantissa, if_pos room,
      inductionHypothesis true further fits, Bool.true_or, List.isEmpty_cons, Bool.not_false,
      Bool.or_true]

/-- Digits behind the point are taken when there are not too many of them and the number that they
all give has room. -/
theorem readPlain_fraction (negative : Bool)
    (allDigits : ∀ digit ∈ digits, digit.isDigit = true) (few : scale + digits.length ≤ 28)
    (fits : Nat.ofDigitChars 10 digits mantissa < Nat.pow 2 96) :
    readPlain negative ⟨mantissa, scale, true, true⟩ digits =
      assemble negative (Nat.ofDigitChars 10 digits mantissa) (scale + digits.length) := by
  induction digits generalizing mantissa scale with
  | nil => rfl
  | cons digit digits inductionHypothesis =>
    obtain ⟨isDigit, further⟩ := List.forall_mem_cons.mp allDigits
    rw [Nat.ofDigitChars_cons] at fits ⊢
    rw [List.length_cons, ← Nat.add_assoc, Nat.add_right_comm] at few ⊢
    have room : Reading.hasRoom ⟨mantissa, scale, true, true⟩ (digit.toNat - '0'.toNat) = true := by
      unfold Reading.hasRoom
      rw [Bool.and_eq_true, decide_eq_true_eq, decide_eq_true_eq, Nat.mul_comm mantissa]
      refine ⟨?_, Nat.lt_of_le_of_lt (le_ofDigitChars digits _) fits⟩
      show scale < 28
      omega
    rw [readPlain, if_pos isDigit]
    dsimp only
    rw [if_pos rfl, if_pos room, Nat.mul_comm mantissa]
    exact inductionHypothesis further few fits

end Digits

/-! ### Texts -/

/-- The digits of a decimal's text are those of its mantissa, as many of them behind the point as
the scale says. -/
theorem exists_characters_eq (decimal : Decimal) :
    ∃ whole fraction, whole ≠ [] ∧ fraction.length = decimal.scale ∧
      whole ++ fraction = Text.zeroPadded (decimal.scale + 1) decimal.mantissa ∧
      decimal.characters = (if decimal.negative then ['-'] else []) ++ (whole ++
        (if decimal.scale = 0 then [] else '.' :: fraction)) := by
  let padded := Text.zeroPadded (decimal.scale + 1) decimal.mantissa
  have long : decimal.scale < padded.length := by
    show _ < (Text.zeroPadded _ _).length
    rw [zeroPadded_eq, List.length_append, List.length_replicate]
    omega
  refine ⟨padded.take (padded.length - decimal.scale), padded.drop (padded.length - decimal.scale),
    ?_, ?_, List.take_append_drop _ _, List.append_assoc _ _ _⟩
  · rw [ne_eq, List.take_eq_nil_iff, not_or]
    exact ⟨by omega, zeroPadded_ne_nil⟩
  · rw [List.length_drop]
    omega

theorem isBlank_of_mem_characters {decimal : Decimal} {character : Char}
    (member : character ∈ decimal.characters) : Text.isBlank character = false := by
  obtain ⟨whole, fraction, -, -, all, text⟩ := exists_characters_eq decimal
  have digit (inside : character ∈ whole ++ fraction) : Text.isBlank character = false := by
    rw [all] at inside
    exact isBlank_of_isDigit (isDigit_of_mem_zeroPadded inside)
  rw [text, List.mem_append, List.mem_append] at member
  rcases member with sign | before | behind
  · split at sign
    · rw [List.mem_singleton.mp sign]
      exact isBlank_of_visible (by decide) (by decide)
    · cases sign
  · exact digit (List.mem_append_left _ before)
  · split at behind
    · cases behind
    · rcases List.mem_cons.mp behind with rfl | inside
      · exact isBlank_of_visible (by decide) (by decide)
      · exact digit (List.mem_append_right _ inside)

/-- What stands behind the sign of a decimal's text is read as its mantissa and scale. -/
theorem readPlain_text (decimal : Decimal) (negative : Bool) {whole fraction : List Char}
    (nonempty : whole ≠ []) (size : fraction.length = decimal.scale)
    (all : whole ++ fraction = Text.zeroPadded (decimal.scale + 1) decimal.mantissa) :
    readPlain negative .start (whole ++ (if decimal.scale = 0 then [] else '.' :: fraction)) =
      assemble negative decimal.mantissa decimal.scale := by
  have allDigits : ∀ digit ∈ whole ++ fraction, digit.isDigit = true := by
    rw [all]
    exact fun digit => isDigit_of_mem_zeroPadded
  have value : Nat.ofDigitChars 10 fraction (Nat.ofDigitChars 10 whole 0) = decimal.mantissa := by
    rw [← Nat.ofDigitChars_append, all, ofDigitChars_zeroPadded]
  have fits := value ▸ decimal.mantissa_lt
  rw [Reading.start, readPlain_whole negative false
    (fun digit member => allDigits digit (List.mem_append_left _ member))
    (Nat.lt_of_le_of_lt (le_ofDigitChars fraction _) fits), Bool.false_or,
    List.isEmpty_eq_false_iff.mpr nonempty, Bool.not_false]
  by_cases unscaled : decimal.scale = 0
  case pos =>
    rw [unscaled] at size
    cases List.eq_nil_of_length_eq_zero size
    rw [if_pos unscaled, unscaled, ← value]
    rfl
  case neg =>
    rw [if_neg unscaled, readPlain, if_neg (by decide), if_pos ⟨rfl, rfl⟩]
    dsimp only
    rw [readPlain_fraction negative
      (fun digit member => allDigits digit (List.mem_append_right _ member)) _ fits, value, size,
      Nat.zero_add]
    rw [size, Nat.zero_add]
    exact decimal.scale_le

/-- Text that begins with a digit is read without a sign. -/
theorem ofPlainText_of_isDigit {digit : Char} (isDigit : digit.isDigit = true) (rest : List Char) :
    ofPlainText (digit :: rest) = readPlain false .start (digit :: rest) := by
  unfold ofPlainText
  split
  case h_1 equal => cases equal
  case h_2 equal =>
    cases equal
    cases isDigit
  case h_3 equal =>
    cases equal
    cases isDigit
  case h_4 => rfl

/-- The decimal without the sign of a zero. -/
def withoutZeroSign (decimal : Decimal) : Decimal :=
  { decimal with negative := decimal.negative && decimal.mantissa != 0 }

theorem assemble_parts (decimal : Decimal) :
    assemble decimal.negative decimal.mantissa decimal.scale = .ok decimal.withoutZeroSign := by
  unfold assemble ofParts?
  rw [dif_pos ⟨decimal.mantissa_lt, decimal.scale_le⟩]
  rfl

/-- A stored decimal is read back from its own text, but for the sign of a zero. -/
theorem ofText_characters (decimal : Decimal) :
    ofText decimal.characters = .ok decimal.withoutZeroSign := by
  obtain ⟨whole, fraction, nonempty, size, all, text⟩ := exists_characters_eq decimal
  have read := readPlain_text decimal decimal.negative nonempty size all
  have plain : ofPlainText decimal.characters = .ok decimal.withoutZeroSign := by
    rw [text, ← assemble_parts, ← read]
    cases decimal.negative with
    | true => rfl
    | false =>
      obtain ⟨digit, others, rfl⟩ := List.exists_cons_of_ne_nil nonempty
      have first : digit ∈ Text.zeroPadded (decimal.scale + 1) decimal.mantissa := by
        rw [← all]
        exact List.mem_cons_self
      exact ofPlainText_of_isDigit (isDigit_of_mem_zeroPadded first) _
  unfold ofText
  rw [plain]

theorem signedMantissa_withoutZeroSign (decimal : Decimal) :
    decimal.withoutZeroSign.signedMantissa = decimal.signedMantissa := by
  by_cases zero : decimal.mantissa = 0
  · simp [signedMantissa, withoutZeroSign, zero]
  · simp [signedMantissa, withoutZeroSign, zero]

theorem sameNumber_withoutZeroSign (decimal : Decimal) :
    decimal.withoutZeroSign.sameNumber decimal = true := by
  unfold sameNumber
  rw [signedMantissa_withoutZeroSign]
  exact beq_self_eq_true _

/-- Decimals that differ at most in the sign of a zero are the same number. -/
theorem sameNumber_of_withoutZeroSign_eq {left right : Decimal}
    (equal : left.withoutZeroSign = right.withoutZeroSign) : left.sameNumber right = true := by
  have mantissa : left.signedMantissa = right.signedMantissa := by
    rw [← signedMantissa_withoutZeroSign left, equal, signedMantissa_withoutZeroSign]
  have scale : left.scale = right.scale := by
    show left.withoutZeroSign.scale = right.withoutZeroSign.scale
    rw [equal]
  unfold sameNumber
  rw [mantissa, scale]
  exact beq_self_eq_true _

end SqlRecords.Decimal
