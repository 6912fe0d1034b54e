/-
This file holds decimal numbers: a sign, a mantissa of ninety-six bits and a scale that says
how many of the mantissa's digits stand behind the point.

The scale is part of the number as it is stored and written, so `12.5` and `12.50` are two
decimals; they are the same number, and equality of stored values compares the numbers. A zero
may carry a sign.
-/

import SqlRecords.Number.Integer

namespace SqlRecords

/-- A decimal number, `mantissa / 10 ^ scale` with a sign. -/
structure Decimal where
  negative : Bool
  mantissa : Nat
  scale : Nat
  mantissa_lt : mantissa < Nat.pow 2 96
  scale_le : scale ≤ 28
deriving DecidableEq

namespace Decimal

/-- The decimal with the given parts, if they fit. -/
def ofParts? (negative : Bool) (mantissa scale : Nat) : Option Decimal :=
  if fits : mantissa < Nat.pow 2 96 ∧ scale ≤ 28 then
    some ⟨negative, mantissa, scale, fits.1, fits.2⟩
  else
    none

/-- The decimal zero. -/
def zero : Decimal :=
  ⟨false, 0, 0, by decide, by decide⟩

/-- The decimal with the value of a stored integer. -/
def ofInteger {kind : IntegerKind} (number : Integer kind) : Decimal where
  negative := number.value < 0
  mantissa := number.value.natAbs
  scale := 0
  mantissa_lt := by
    have lower := number.least_le
    have upper := number.le_greatest
    have limit : Nat.pow 2 96 = 79228162514264337593543950336 := rfl
    cases kind <;> simp only [IntegerKind.least, IntegerKind.greatest] at lower upper <;> omega
  scale_le := by decide

/-- The mantissa with its sign. -/
def signedMantissa (decimal : Decimal) : Int :=
  if decimal.negative then -(decimal.mantissa : Int) else decimal.mantissa

/-- Whether two decimals are the same number. -/
def sameNumber (left right : Decimal) : Bool :=
  left.signedMantissa * Nat.pow 10 right.scale == right.signedMantissa * Nat.pow 10 left.scale

/-- Whether no digit behind the point differs from zero. -/
def isWhole (decimal : Decimal) : Bool :=
  decimal.mantissa % Nat.pow 10 decimal.scale == 0

/-- The whole part of a decimal, cut off towards zero. -/
def wholePart (decimal : Decimal) : Int :=
  let magnitude : Int := (decimal.mantissa / Nat.pow 10 decimal.scale : Nat)
  if decimal.negative then -magnitude else magnitude

/-! ### Writing -/

/-- The text of a decimal: a minus where the sign is set, at least one digit before the point,
and exactly as many digits behind it as the scale says. -/
def characters (decimal : Decimal) : List Char :=
  let digits := Nat.toDigits 10 decimal.mantissa
  let padded := List.replicate (decimal.scale + 1 - digits.length) '0' ++ digits
  let whole := padded.take (padded.length - decimal.scale)
  let fraction := padded.drop (padded.length - decimal.scale)
  (if decimal.negative then ['-'] else []) ++ whole ++
    (if decimal.scale = 0 then [] else '.' :: fraction)

/-- The text of a decimal. -/
def text (decimal : Decimal) : String :=
  String.ofList decimal.characters

end Decimal

end SqlRecords
