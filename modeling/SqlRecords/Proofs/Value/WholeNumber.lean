/-
This file says which values are read as integers and as which. An integer stands for itself
whatever its kind, a truth value for one or zero, a decimal for the number it is equal to, and a
text for the numeral it holds between white space. Nothing else stands for an integer, neither a
null nor a floating point number, a point of time or bytes.

A value is read as an integer of a kind exactly if it stands for one in the range of that kind. So
nothing is rounded or wrapped on the way.
-/

import Mathlib.Algebra.Group.Int.Defs
import SqlRecords.Proofs.Number.IntegerText
import SqlRecords.Proofs.Results
import SqlRecords.Proofs.Text.Blank
import SqlRecords.Value.Conversion

namespace SqlRecords

/-! ### Whole decimals -/

namespace Decimal

/-- A number is a quotient times the divisor exactly if nothing is left over. -/
theorem natCast_eq_mul_iff {divisor : Nat} (positive : 0 < divisor) (dividend : Nat)
    (quotient : Int) :
    (dividend : Int) = quotient * divisor ↔
      dividend % divisor = 0 ∧ ((dividend / divisor : Nat) : Int) = quotient := by
  have nonzero : (divisor : Int) ≠ 0 := by omega
  constructor
  · intro equal
    have noRest : (dividend : Int) % divisor = 0 := by rw [equal, Int.mul_emod_left]
    refine ⟨by exact_mod_cast noRest, ?_⟩
    rw [Int.natCast_ediv, equal, Int.mul_ediv_cancel _ nonzero]
  · rintro ⟨noRest, rfl⟩
    have product := Nat.div_mul_cancel (Nat.dvd_of_mod_eq_zero noRest)
    exact_mod_cast product.symm

/-- A decimal is equal to an integer exactly if it is whole and the integer is its whole part. -/
theorem signedMantissa_eq_iff (decimal : Decimal) (number : Int) :
    decimal.signedMantissa = number * 10 ^ decimal.scale ↔
      decimal.isWhole = true ∧ decimal.wholePart = number := by
  have positive : 0 < 10 ^ decimal.scale := Nat.pow_pos (by decide)
  have power : ((10 ^ decimal.scale : Nat) : Int) = 10 ^ decimal.scale := Int.natCast_pow 10 _
  unfold signedMantissa isWhole wholePart
  rw [beq_iff_eq, ← power]
  cases decimal.negative with
  | false => exact natCast_eq_mul_iff positive decimal.mantissa number
  | true =>
    have negated := natCast_eq_mul_iff positive decimal.mantissa (-number)
    rw [Int.neg_mul] at negated
    simp only [if_true]
    rw [Int.neg_eq_comm, eq_comm, negated, Int.neg_eq_comm]
    exact and_congr_right fun _ => eq_comm

end Decimal

/-! ### Numerals between white space -/

namespace Integer

variable {kind : IntegerKind} {characters : List Char} {number : Int}

theorem IsNumeral.ne_nil (numeral : IsNumeral kind characters number) : characters ≠ [] := by
  cases numeral with
  | digits nonempty => exact nonempty
  | plus => exact List.cons_ne_nil _ _
  | minus => exact List.cons_ne_nil _ _

theorem isBlank_of_mem_signed {sign : Char} (mark : Text.isBlank sign = false)
    {digits : List Char} (allDigits : ∀ digit ∈ digits, digit.isDigit = true) {character : Char}
    (member : character ∈ sign :: digits) : Text.isBlank character = false := by
  rcases List.mem_cons.mp member with rfl | digit
  · exact mark
  · exact isBlank_of_isDigit (allDigits character digit)

theorem IsNumeral.isBlank_of_mem (numeral : IsNumeral kind characters number) {character : Char}
    (member : character ∈ characters) : Text.isBlank character = false := by
  cases numeral with
  | digits _ allDigits => exact isBlank_of_isDigit (allDigits character member)
  | plus _ allDigits =>
    exact isBlank_of_mem_signed (isBlank_of_visible (by decide) (by decide)) allDigits member
  | minus _ _ allDigits =>
    exact isBlank_of_mem_signed (isBlank_of_visible (by decide) (by decide)) allDigits member

theorem trimmed_of_isNumeral {given : String} {before after : List Char}
    (around : given.toList = before ++ characters ++ after)
    (blankBefore : ∀ character ∈ before, Text.isBlank character = true)
    (blankAfter : ∀ character ∈ after, Text.isBlank character = true)
    (numeral : IsNumeral kind characters number) : Conversion.trimmed given = characters := by
  unfold Conversion.trimmed
  rw [around]
  refine strip_append numeral.ne_nil blankBefore blankAfter ?_ ?_
  · exact fun character member => numeral.isBlank_of_mem (List.mem_of_mem_head? member)
  · exact fun character member => numeral.isBlank_of_mem (List.mem_of_mem_getLast? member)

end Integer

/-! ### Values that stand for integers -/

/-- The integers that values stand for when integers of a kind are read. The kind matters to
texts alone, as a kind without negative members has no numerals with a minus. -/
inductive Value.Denotes (kind : IntegerKind) : Value → Int → Prop
  | integer {other : IntegerKind} (content : Integer other) :
    Denotes kind (.integer other (some content)) content.value
  | boolean (content : Bool) :
    Denotes kind (.boolean (some content)) (if content then 1 else 0)
  | decimal {content : Decimal} {number : Int}
    (equal : content.signedMantissa = number * 10 ^ content.scale) :
    Denotes kind (.decimal (some content)) number
  | text {content : String} {before numeral after : List Char} {number : Int}
    (around : content.toList = before ++ numeral ++ after)
    (blankBefore : ∀ character ∈ before, Text.isBlank character = true)
    (blankAfter : ∀ character ∈ after, Text.isBlank character = true)
    (stands : Integer.IsNumeral kind numeral number) :
    Denotes kind (.text (some content)) number

namespace Conversion

variable {kind : IntegerKind}

theorem integerOf_eq_ok_iff (number : Int) (integer : Integer kind) :
    integerOf kind number = .ok integer ↔ integer.value = number := by
  rw [← Integer.ofInt?_eq_some_iff]
  unfold integerOf
  cases Integer.ofInt? kind number with
  | none => exact ⟨fun equal => (nomatch equal), fun equal => (nomatch equal)⟩
  | some other =>
    constructor
    · exact fun equal => congrArg some (Except.ok.inj equal)
    · exact fun equal => congrArg Except.ok (Option.some.inj equal)

theorem denotes_integer_iff {other : IntegerKind} (content : Integer other) (number : Int) :
    (Value.integer other (some content)).Denotes kind number ↔ content.value = number := by
  constructor
  · intro denoted
    cases denoted
    rfl
  · rintro rfl
    exact .integer content

theorem denotes_boolean_iff (content : Bool) (number : Int) :
    (Value.boolean (some content)).Denotes kind number ↔ (if content then 1 else 0) = number := by
  constructor
  · intro denoted
    cases denoted
    rfl
  · rintro rfl
    exact .boolean content

theorem denotes_decimal_iff (content : Decimal) (number : Int) :
    (Value.decimal (some content)).Denotes kind number ↔
      content.isWhole = true ∧ content.wholePart = number := by
  rw [← content.signedMantissa_eq_iff]
  refine ⟨fun denoted => ?_, .decimal⟩
  cases denoted with
  | decimal equal => exact equal

theorem denotes_text_iff (content : String) (number : Int) :
    (Value.text (some content)).Denotes kind number ↔
      Integer.IsNumeral kind (trimmed content) number := by
  constructor
  · intro denoted
    cases denoted with
    | text around blankBefore blankAfter stands =>
      rwa [Integer.trimmed_of_isNumeral around blankBefore blankAfter stands]
  · intro stands
    obtain ⟨before, after, around, blankBefore, blankAfter⟩ :=
      exists_around_strip Text.isBlank content.toList
    exact .text around blankBefore blankAfter stands

/-- A value is read as an integer of a kind exactly if it stands for that integer. -/
theorem integerOfValue_eq_ok_iff (value : Value) (integer : Integer kind) :
    integerOfValue kind value = .ok integer ↔ value.Denotes kind integer.value := by
  unfold integerOfValue
  split
  case h_1 => rw [denotes_integer_iff, integerOf_eq_ok_iff, eq_comm]
  case h_2 => rw [denotes_boolean_iff, integerOf_eq_ok_iff, eq_comm]
  case h_3 content =>
    rw [denotes_decimal_iff]
    split
    case isTrue whole => rw [integerOf_eq_ok_iff, eq_comm, and_iff_right whole]
    case isFalse part => exact ⟨fun equal => (nomatch equal), fun both => absurd both.1 part⟩
  case h_4 given =>
    rw [denotes_text_iff, ← Integer.ofText_eq_ok_iff]
    exact mapError_eq_ok_iff _ _ _
  case h_5 noInteger noBoolean noDecimal noText =>
    have nothing (number : Int) : ¬ value.Denotes kind number := by
      intro denoted
      cases denoted with
      | integer content => exact noInteger _ _ rfl
      | boolean content => exact noBoolean _ rfl
      | decimal => exact noDecimal _ rfl
      | text => exact noText _ rfl
    exact ⟨fun equal => (nomatch equal), fun denoted => absurd denoted (nothing _)⟩

/-- What is refused stands for no integer of the kind. -/
theorem not_denotes_of_refused {value : Value} {reason : ConversionError}
    (refused : integerOfValue kind value = .error reason) {number : Int}
    (least_le : kind.least ≤ number) (le_greatest : number ≤ kind.greatest) :
    ¬ value.Denotes kind number := by
  intro denoted
  have read := (integerOfValue_eq_ok_iff value ⟨number, least_le, le_greatest⟩).mpr denoted
  rw [refused] at read
  cases read

-- A kind without negative members has no minus, whatever number stands behind it.
example : integerOfValue .uint64 (.text (some "-0")) =
    .error (.notInteger "-0" .uint64 .invalidDigit) := rfl

end Conversion

end SqlRecords
