/-
This file converts between decimal and floating point numbers.

From floating point to decimal the number is first written exactly as a whole number times
powers of two and ten, then the powers of two are traded for powers of ten one at a time while
the mantissa has room, and at last the digits beyond what the precision can tell apart are
rounded away. From decimal to floating point the whole part and the fraction are converted
separately, and their sum is rounded to the number of places the decimal has.
-/

import SqlRecords.Number.Decimal
import SqlRecords.Number.Floating

namespace SqlRecords.Decimal

open Floating (Meaning)

/-! ### From floating point -/

/-- A number underway from powers of two to powers of ten: `bits * 10 ^ tens`, times powers of
five that are still to be multiplied or divided. -/
structure Exchange where
  bits : Nat
  tens : Int

/-- Trades negative powers of two for powers of ten: halves an even mantissa, multiplies an odd
one by five while there is room, and otherwise drops its last bit. -/
def tradeHalves : Nat → Exchange → Exchange
  | 0, exchange => exchange
  | fives + 1, ⟨bits, tens⟩ =>
    if bits % 2 = 0 then
      tradeHalves fives ⟨bits / 2, tens + 1⟩
    else if bits * 5 < Nat.pow 2 96 then
      tradeHalves fives ⟨bits * 5, tens⟩
    else
      tradeHalves fives ⟨bits / 2, tens + 1⟩

/-- Trades positive powers of two for powers of ten: doubles the mantissa while it has room, and
otherwise divides it by five. Gives up on a number that is too large by then. -/
def tradeDoubles : Nat → Exchange → Option Exchange
  | 0, exchange => some exchange
  | fives + 1, ⟨bits, tens⟩ =>
    if bits < Nat.pow 2 95 then
      tradeDoubles fives ⟨bits * 2, tens - 1⟩
    else if (fives + 1 : Int) < tens * 2 then
      none
    else
      tradeDoubles fives ⟨bits / 5, tens⟩

/-- Multiplies the remaining powers of ten into the mantissa. -/
def raise : Nat → Nat → Option Nat
  | 0, bits => some bits
  | tens + 1, bits => if bits * 10 < Nat.pow 2 96 then raise tens (bits * 10) else none

/-- Brings the scale down to what a decimal can have, a digit at a time. A number that vanishes
on the way is zero. -/
def lowerScale : Nat → Nat → Nat × Nat
  | 0, bits => (bits, 28)
  | excess + 1, bits =>
    if bits / 10 = 0 then
      (0, 0)
    else
      lowerScale excess (if 5 ≤ bits % 10 then bits / 10 + 1 else bits / 10)

/-- Rounds digits away from the end of the fraction while the mantissa exceeds what the
precision tells apart. -/
def dropSurplus (limit : Nat) : Nat → Nat → Nat × Nat
  | 0, bits => (bits, 0)
  | scale + 1, bits =>
    if limit ≤ bits then
      dropSurplus limit scale (if 5 ≤ bits % 10 then bits / 10 + 1 else bits / 10)
    else
      (bits, scale + 1)

/-- Drops the zeros at the end of the fraction. -/
def dropZeros : Nat → Nat → Nat × Nat
  | 0, bits => (bits, 0)
  | scale + 1, bits => if bits % 10 = 0 then dropZeros scale (bits / 10) else (bits, scale + 1)

/-- The bound on the mantissa up to which the precision tells whole numbers apart. -/
def surplusLimit : Precision → Nat
  | .single => Nat.pow 2 24
  | .double => Nat.pow 2 52

/-- The decimal nearest to a finite floating point number, as far as the precision of both
goes. Infinities, not-a-numbers and numbers beyond the decimals have none. -/
def ofFloating {precision : Precision} (number : Floating precision) : Option Decimal :=
  match number.meaning with
  | .notANumber | .infinite _ => none
  | .finite negative 0 _ => ofParts? negative 0 0
  | .finite negative mantissa power => do
    let exchange ←
      if power < 0 then some (tradeHalves (-power).toNat ⟨mantissa, power⟩)
      else tradeDoubles power.toNat ⟨mantissa, power⟩
    if 0 ≤ exchange.tens then
      let bits ← raise exchange.tens.toNat exchange.bits
      ofParts? negative bits 0
    else
      let scale := (-exchange.tens).toNat
      let (bits, scale) :=
        if 28 < scale then lowerScale (scale - 28) exchange.bits else (exchange.bits, scale)
      let (bits, scale) := dropSurplus (surplusLimit precision) scale bits
      let (bits, scale) := dropZeros scale bits
      ofParts? negative bits scale

/-! ### To floating point -/

/-- The fraction that a finite floating point number is, without its sign. -/
def magnitude (number : Floating .double) : Nat × Nat :=
  match number.meaning with
  | .finite _ mantissa power => Floating.shiftFraction mantissa 1 (-power)
  | _ => (0, 1)

/-- The floating point sum of two numbers that are not negative. -/
def sum (left right : Floating .double) : Floating .double :=
  let (leftTop, leftBottom) := magnitude left
  let (rightTop, rightBottom) := magnitude right
  .ofFraction .double false (leftTop * rightBottom + rightTop * leftBottom)
    (leftBottom * rightBottom)

/-- The floating point product of two numbers that are not negative. -/
def product (left right : Floating .double) : Floating .double :=
  let (leftTop, leftBottom) := magnitude left
  let (rightTop, rightBottom) := magnitude right
  .ofFraction .double false (leftTop * rightTop) (leftBottom * rightBottom)

/-- The floating point quotient of two numbers that are not negative. -/
def quotient (left right : Floating .double) : Floating .double :=
  let (leftTop, leftBottom) := magnitude left
  let (rightTop, rightBottom) := magnitude right
  .ofFraction .double false (leftTop * rightBottom) (leftBottom * rightTop)

/-- The whole number nearest to one that is not negative, the greater of two equally near. -/
def nearestWhole (number : Floating .double) : Floating .double :=
  let (top, bottom) := magnitude number
  .ofFraction .double false ((2 * top + bottom) / (2 * bottom)) 1

/-- The floating point number nearest to a whole number that is not negative. -/
def ofWhole (value : Nat) : Floating .double :=
  .ofFraction .double false value 1

/-- A floating point power of ten, by repeated squaring from the lowest bit of the exponent. -/
def powerOfTen : Nat → Nat → Floating .double → Floating .double → Floating .double
  | 0, _, _, result => result
  | room + 1, exponent, square, result =>
    powerOfTen room (exponent / 2) (product square square)
      (if exponent % 2 = 1 then product result square else result)

/-- A double with the sign of a decimal. -/
def withSign (negative : Bool) (number : Floating .double) : Floating .double :=
  let (top, bottom) := magnitude number
  .ofFraction .double negative top bottom

/-- The double that a decimal converts to. A decimal without places converts as the integer it
is, which has no negative zero. -/
def toDouble (decimal : Decimal) : Floating .double :=
  if decimal.scale = 0 then
    .ofInt .double decimal.signedMantissa
  else
    let whole := ofWhole (decimal.mantissa / Nat.pow 10 decimal.scale)
    let rest := decimal.mantissa % Nat.pow 10 decimal.scale
    if rest = 0 then
      withSign decimal.negative whole
    else
      let fraction := quotient (ofWhole rest) (ofWhole (Nat.pow 10 decimal.scale))
      let places := powerOfTen 5 decimal.scale (ofWhole 10) (ofWhole 1)
      withSign decimal.negative
        (quotient (nearestWhole (product (sum whole fraction) places)) places)

/-- The floating point number of a precision that a decimal converts to. -/
def toFloating (precision : Precision) (decimal : Decimal) : Floating precision :=
  decimal.toDouble.convert precision

end SqlRecords.Decimal
