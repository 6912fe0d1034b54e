/-
This file writes labels of domain names with letters, digits and hyphens only, and reads them
back.

The plain characters of a label come first, with a hyphen behind them. The other characters are
given by the way to put them in, from the least code point to the greatest and from left to
right: a reader walks along the gaps of what it has, around and around, with the code point one
higher on every round, and each number says how many gaps it passes before the next character
goes in. The numbers are written in digits of base 36, the lowest first, and so that a number
ends at the first digit below a threshold; the thresholds follow the size of the numbers
before.
-/

import SqlRecords.Text.Split

namespace SqlRecords.Url.Punycode

/-! ### Digits -/

/-- The digit with a value below 36. -/
def digitOf (value : Nat) : Char :=
  if value < 26 then Char.ofNat ('a'.toNat + value) else Char.ofNat ('0'.toNat + (value - 26))

/-- The value of a digit. -/
def digitValue? (digit : Char) : Option Nat :=
  if digit.isLower then some (digit.toNat - 'a'.toNat)
  else if digit.isDigit then some (digit.toNat - '0'.toNat + 26)
  else none

/-- The threshold at a place of a number; places are counted in steps of 36. -/
def threshold (bias place : Nat) : Nat :=
  max 1 (min 26 (place - bias))

/-- The digits of a number from a place on. -/
def numberDigits (bias place number : Nat) : List Char :=
  let least := threshold bias place
  if number < least then
    [digitOf number]
  else
    digitOf (least + (number - least) % (36 - least)) ::
      numberDigits bias (place + 36) ((number - least) / (36 - least))
termination_by number
decreasing_by
  have positive : 1 ≤ threshold bias place := Nat.le_max_left ..
  have smaller := Nat.div_le_self (number - threshold bias place) (36 - threshold bias place)
  omega

/-- The bias that fits numbers of a size. -/
def biasFor (size : Nat) : Nat :=
  if 455 < size then 36 + biasFor (size / 35) else 36 * size / (size + 38)
termination_by size
decreasing_by exact Nat.div_lt_self (by omega) (by omega)

/-- The bias after a number, given how many characters are in place with the new one. The first
number tells less about the next ones than the others do. -/
def nextBias (number placed : Nat) (isFirst : Bool) : Nat :=
  let size := if isFirst then number / 700 else number / 2
  biasFor (size + size / placed)

/-! ### Writing -/

/-- Whether a character is written as it is. -/
def isBasic (character : Char) : Bool :=
  character.toNat < 128

/-- What is known between two steps of writing a label. -/
structure Writing where
  /-- how many characters are in place -/
  placed : Nat
  /-- the gaps passed since the last one was put in -/
  passed : Nat
  bias : Nat
  written : List Char

/-- Goes past a character of the label in the round of a code point. -/
def Writing.pass (basic code : Nat) (writing : Writing) (character : Char) : Writing :=
  if character.toNat < code then
    { writing with passed := writing.passed + 1 }
  else if character.toNat = code then
    { placed := writing.placed + 1
      passed := 0
      bias := nextBias writing.passed (writing.placed + 1) (writing.placed == basic)
      written := writing.written ++ numberDigits writing.bias 36 writing.passed }
  else
    writing

/-- Goes through the rounds of the code points, from the given one on. -/
def Writing.rounds (label : List Char) (basic : Nat) : Nat → List Nat → Writing → Writing
  | _, [], writing => writing
  | code, next :: rest, writing =>
    let skipped := { writing with passed := writing.passed + (next - code) * (writing.placed + 1) }
    let after := label.foldl (Writing.pass basic next) skipped
    Writing.rounds label basic (next + 1) rest { after with passed := after.passed + 1 }

/-- Writes a label. -/
def encode (label : List Char) : List Char :=
  let basic := label.filter isBasic
  let codes := ((label.filter (!isBasic ·)).map Char.toNat).mergeSort.eraseReps
  let numbers := (Writing.rounds label basic.length 128 codes ⟨basic.length, 0, 72, []⟩).written
  if basic.isEmpty then numbers else basic ++ ['-'] ++ numbers

/-! ### Reading -/

/-- What is known between two digits of a label that is read. -/
structure Reading where
  /-- the characters in place -/
  placed : List Char
  /-- the code point of the round -/
  code : Nat
  /-- the gap that the walk is at, counted on beyond the last one -/
  gap : Nat
  /-- the gap that the walk was at when the number began -/
  start : Nat
  bias : Nat
  /-- the weight of the next digit -/
  weight : Nat
  /-- the place of the next digit -/
  place : Nat

/-- Reads one digit, and puts a character in where a number ends. -/
def Reading.step? (reading : Reading) (digit : Char) : Option Reading := do
  let value ← digitValue? digit
  let least := threshold reading.bias reading.place
  let gap := reading.gap + value * reading.weight
  if least ≤ value then
    some { reading with
      gap := gap
      weight := reading.weight * (36 - least)
      place := reading.place + 36 }
  else
    let count := reading.placed.length + 1
    let code := reading.code + gap / count
    let position := gap % count
    if code.isValidChar then
      some {
        placed := reading.placed.insertIdx position (Char.ofNat code)
        code := code
        gap := position + 1
        start := position + 1
        bias := nextBias (gap - reading.start) count (reading.start == 0)
        weight := 1
        place := 36 }
    else
      none

/-- Reads a label. -/
def decode? (written : List Char) : Option (List Char) := do
  let (basic, numbers) := (Text.splitAtLast? '-' written).getD ([], written)
  if !basic.all isBasic then none
  let reading ← numbers.foldlM Reading.step? ⟨basic, 128, 0, 0, 72, 1, 36⟩
  if reading.place = 36 then some reading.placed else none

end SqlRecords.Url.Punycode
