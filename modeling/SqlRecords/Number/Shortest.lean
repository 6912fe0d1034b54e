/-
This file chooses the decimal digits that identify a binary floating point number: the fewest
that read back to it, and among those the nearest to it.

The numbers that round to a given one form an interval around it, whose ends are halfway to the
two neighbours. The interval and the number itself have finite decimal expansions, so they are
whole numbers in a common unit, a power of ten. On the grid of multiples of a larger power of
ten only the two neighbours of the number can be nearest to it, and the coarsest grid that has
one of them inside the interval gives the fewest digits. The finest grid holds the number
itself, so the search always ends with an answer.
-/

import SqlRecords.Number.Floating

namespace SqlRecords.Floating

/-- Which of two equally near decimals is chosen. -/
inductive Tie where
  /-- the greater one -/
  | greater
  /-- the one whose last digit is even -/
  | even
deriving DecidableEq, Repr

/-- A positive decimal number: its digits as a whole number, and the power of ten that the last
digit stands for. -/
structure Digits where
  digits : Nat
  power : Int
deriving DecidableEq, Repr

/-- The numbers that round to a given one, as whole numbers of a common unit `10 ^ power`. -/
structure RoundingInterval where
  lower : Nat
  number : Nat
  upper : Nat
  /-- whether the two ends themselves round to the number -/
  closed : Bool
  power : Int

/-- The interval of the numbers that round to `mantissa * 2 ^ power`. The neighbour below is
half as far away when the mantissa is the least one of a higher power of two. -/
def roundingInterval (precision : Precision) (mantissa : Nat) (power : Int) :
    RoundingInterval :=
  let narrow := mantissa = Nat.pow 2 precision.fractionBits ∧ precision.leastPower < power
  let below := if narrow then 1 else 2
  let quarter := power - 2
  let unit := if 0 ≤ quarter then Nat.pow 2 quarter.toNat else Nat.pow 5 (-quarter).toNat
  { lower := (4 * mantissa - below) * unit
    number := 4 * mantissa * unit
    upper := (4 * mantissa + 2) * unit
    closed := mantissa % 2 == 0
    power := min quarter 0 }

/-- Whether a whole number of units lies in the interval. -/
def RoundingInterval.contains (interval : RoundingInterval) (candidate : Nat) : Bool :=
  if interval.closed then
    interval.lower ≤ candidate && candidate ≤ interval.upper
  else
    interval.lower < candidate && candidate < interval.upper

/-- The multiple of a grid's unit that is nearest to the number, among those of its two
neighbours on the grid that lie in the interval. -/
def RoundingInterval.nearestOnGrid (interval : RoundingInterval) (tie : Tie) (grid : Nat) :
    Option Nat :=
  let count := interval.number / grid
  let below := interval.number - count * grid
  let above := (count + 1) * grid - interval.number
  let prefersAbove :=
    above < below ∨ (above = below ∧ (tie = .greater ∨ count % 2 = 1))
  match interval.contains (count * grid), interval.contains ((count + 1) * grid) with
  | false, false => none
  | true, false => some count
  | false, true => some (count + 1)
  | true, true => some (if prefersAbove then count + 1 else count)

/-- The digits on the coarsest grid that has any, tried from `10 ^ exponent` downwards. -/
def RoundingInterval.search (interval : RoundingInterval) (tie : Tie) : Nat → Digits
  | 0 => ⟨interval.number, interval.power⟩
  | exponent + 1 =>
    match interval.nearestOnGrid tie (Nat.pow 10 exponent) with
    | some count => ⟨count, interval.power + exponent⟩
    | none => interval.search tie exponent

/-- Moves the zeros at the end of the digits into the power of ten, at most the given number of
them. -/
def Digits.strip : Nat → Digits → Digits
  | 0, decimal => decimal
  | room + 1, decimal =>
    if decimal.digits % 10 = 0 then
      Digits.strip room ⟨decimal.digits / 10, decimal.power + 1⟩
    else
      decimal

/-- The fewest digits that read back to the positive number `mantissa * 2 ^ power` of a
precision. -/
def shortest (precision : Precision) (tie : Tie) (mantissa : Nat) (power : Int) : Digits :=
  let interval := roundingInterval precision mantissa power
  let found := interval.search tie (Nat.toDigits 10 interval.number).length
  found.strip (Nat.toDigits 10 found.digits).length

end SqlRecords.Floating
