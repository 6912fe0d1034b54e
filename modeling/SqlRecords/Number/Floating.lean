/-
This file holds binary floating point numbers of two precisions as the bit patterns they are
stored as.

A pattern is decoded into a sign, a whole mantissa and a power of two, and every computation on
floating point numbers goes through exact arithmetic on those: the exact result is a fraction,
and `ofFraction` rounds it once, to the nearest representable number and to the even one of two
that are equally near. Patterns are kept as they are, so a number that only travels through a
record comes out bit for bit, the payload of a not-a-number included.
-/

namespace SqlRecords

/-! ### Precisions and patterns -/

/-- The two precisions of stored floating point numbers. -/
inductive Precision where
  | single
  | double
deriving DecidableEq, Repr

namespace Precision

/-- The number of stored mantissa bits. -/
def fractionBits : Precision → Nat
  | single => 23
  | double => 52

/-- The number of exponent bits. -/
def exponentBits : Precision → Nat
  | single => 8
  | double => 11

/-- The number of bits of a pattern. -/
def width : Precision → Nat
  | single => 32
  | double => 64

/-- The exponent field of the infinities and the not-a-numbers, all of whose bits are set. -/
def topExponent (precision : Precision) : Nat :=
  Nat.pow 2 precision.exponentBits - 1

/-- The power of two that the last mantissa bit of the smallest numbers stands for. -/
def leastPower : Precision → Int
  | single => -149
  | double => -1074

/-- The name of the precision in messages. -/
def name : Precision → String
  | single => "f32"
  | double => "f64"

end Precision

/-- A floating point number: its bit pattern. -/
structure Floating (precision : Precision) where
  bits : BitVec precision.width
deriving DecidableEq

namespace Floating

variable {precision : Precision}

/-- The pattern with the given sign, exponent field and stored mantissa bits. -/
def ofFields (precision : Precision) (negative : Bool) (exponent fraction : Nat) :
    Floating precision :=
  ⟨BitVec.ofNat precision.width
    (((if negative then Nat.pow 2 precision.exponentBits else 0) + exponent) *
      Nat.pow 2 precision.fractionBits + fraction)⟩

/-- The infinity of a sign. -/
def infinity (precision : Precision) (negative : Bool) : Floating precision :=
  ofFields precision negative precision.topExponent 0

/-- The zero of a sign. -/
def zero (precision : Precision) (negative : Bool) : Floating precision :=
  ofFields precision negative 0 0

/-- The not-a-number that computations give. -/
def notANumber (precision : Precision) : Floating precision :=
  ofFields precision false precision.topExponent (Nat.pow 2 (precision.fractionBits - 1))

/-! ### What a pattern stands for -/

/-- What a pattern stands for: no number, an infinity, or the number of the given sign whose
absolute value is the mantissa times a power of two. -/
inductive Meaning where
  | notANumber
  | infinite (negative : Bool)
  | finite (negative : Bool) (mantissa : Nat) (power : Int)
deriving DecidableEq, Repr

/-- The sign bit of a pattern. -/
def isNegative (number : Floating precision) : Bool :=
  number.bits.toNat / Nat.pow 2 (precision.fractionBits + precision.exponentBits) == 1

/-- The exponent field of a pattern. -/
def exponentField (number : Floating precision) : Nat :=
  number.bits.toNat / Nat.pow 2 precision.fractionBits % Nat.pow 2 precision.exponentBits

/-- The stored mantissa bits of a pattern. -/
def fractionField (number : Floating precision) : Nat :=
  number.bits.toNat % Nat.pow 2 precision.fractionBits

/-- Decodes a pattern. An exponent field of zero has no implied leading bit. -/
def meaning (number : Floating precision) : Meaning :=
  if number.exponentField = precision.topExponent then
    if number.fractionField = 0 then .infinite number.isNegative else .notANumber
  else if number.exponentField = 0 then
    .finite number.isNegative number.fractionField precision.leastPower
  else
    .finite number.isNegative (Nat.pow 2 precision.fractionBits + number.fractionField)
      (precision.leastPower + (number.exponentField - 1 : Nat))

/-- Whether a pattern stands for a number that is neither infinite nor undefined. -/
def isFinite (number : Floating precision) : Bool :=
  number.exponentField != precision.topExponent

/-- Equality of the numbers two patterns stand for: a not-a-number equals nothing, and the two
zeros are equal. -/
def sameNumber (left right : Floating precision) : Bool :=
  match left.meaning, right.meaning with
  | .notANumber, _ | _, .notANumber => false
  | .finite _ 0 _, .finite _ 0 _ => true
  | _, _ => left == right

/-! ### Rounding -/

/-- The whole number nearest to a fraction, the even one of two that are equally near. -/
def roundHalfEven (numerator denominator : Nat) : Nat :=
  let quotient := numerator / denominator
  let twice := 2 * (numerator % denominator)
  if twice < denominator then quotient
  else if denominator < twice then quotient + 1
  else if quotient % 2 = 0 then quotient
  else quotient + 1

/-- A fraction divided by a power of two, as a fraction. -/
def shiftFraction (numerator denominator : Nat) (power : Int) : Nat × Nat :=
  if 0 ≤ power then
    (numerator, denominator * Nat.pow 2 power.toNat)
  else
    (numerator * Nat.pow 2 (-power).toNat, denominator)

/-- The power of two that the last mantissa bit stands for when a positive fraction is rounded:
the one that leaves a full mantissa before the point, or the least one of the precision. -/
def roundingPower (precision : Precision) (numerator denominator : Nat) : Int :=
  let guess : Int := (numerator.log2 : Int) - denominator.log2 - 1 - precision.fractionBits
  let (top, bottom) := shiftFraction numerator denominator guess
  let full := if top / bottom < Nat.pow 2 (precision.fractionBits + 1) then guess else guess + 1
  max full precision.leastPower

/-- The number of a sign nearest to a fraction, of two equally near ones the one with an even
mantissa. A fraction too large for the precision gives an infinity. -/
def ofFraction (precision : Precision) (negative : Bool) (numerator denominator : Nat) :
    Floating precision :=
  if numerator = 0 then
    zero precision negative
  else
    let power := roundingPower precision numerator denominator
    let (top, bottom) := shiftFraction numerator denominator power
    let mantissa := roundHalfEven top bottom
    let magnitude :=
      (power - precision.leastPower).toNat * Nat.pow 2 precision.fractionBits + mantissa
    if magnitude < precision.topExponent * Nat.pow 2 precision.fractionBits then
      ofFields precision negative 0 magnitude
    else
      infinity precision negative

/-- The number of a sign nearest to a whole number times a power of two. -/
def ofScaled (precision : Precision) (negative : Bool) (mantissa : Nat) (power : Int) :
    Floating precision :=
  if 0 ≤ power then
    ofFraction precision negative (mantissa * Nat.pow 2 power.toNat) 1
  else
    ofFraction precision negative mantissa (Nat.pow 2 (-power).toNat)

/-- The number nearest to an integer. -/
def ofInt (precision : Precision) (value : Int) : Floating precision :=
  ofFraction precision (value < 0) value.natAbs 1

/-- A number in a precision: itself when it already has that precision, otherwise the nearest
one. -/
def convert (target : Precision) (number : Floating precision) : Floating target :=
  if same : precision = target then
    same ▸ number
  else
    match number.meaning with
    | .notANumber => notANumber target
    | .infinite negative => infinity target negative
    | .finite negative mantissa power => ofScaled target negative mantissa power

end Floating

end SqlRecords
