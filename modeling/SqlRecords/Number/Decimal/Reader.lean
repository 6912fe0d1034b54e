/-
This file reads decimal numbers from text.

A text is read from left to right. While there is room, a digit lengthens the mantissa, and a
digit behind the point the scale too. The first digit behind the point for which there is no
room rounds the number, half away from zero, and the characters after it are looked at only to
see that they may stand there. A digit before the point for which there is no room refuses the
text. A low line may stand anywhere after the first digit and means nothing.

A text that is no plain decimal but has a letter `e` is read in scientific notation: a plain
decimal, the letter and a whole exponent. The exponent is at most twenty-eight either way, unless
it only moves the point among the digits that are there. Digits that a negative exponent pushes
out of the scale are rounded away, a half upwards; a positive one never loses a digit.
-/

import SqlRecords.Number.Decimal

namespace SqlRecords.Decimal

/-- Why a text is not a decimal number. -/
inductive TextError where
  | empty
  | twoPoints
  | leadingSeparator
  | unknownCharacter
  | noDigits
  | tooManyDigits
  | roundingOverflow
  /-- an exponent that is no whole number -/
  | malformedExponent
  /-- an exponent that is out of bounds -/
  | exponentTooGreat (exponent : Nat)
  /-- a power of ten that leads beyond the greatest decimal -/
  | tooGreat
deriving DecidableEq, Repr

/-- The wording of the reason. -/
def TextError.message : TextError → String
  | empty => "Invalid decimal: empty"
  | twoPoints => "Invalid decimal: two decimal points"
  | leadingSeparator => "Invalid decimal: must start lead with a number"
  | unknownCharacter => "Invalid decimal: unknown character"
  | noDigits => "Invalid decimal: no digits found"
  | tooManyDigits => "Invalid decimal: overflow from too many digits"
  | roundingOverflow => "Invalid decimal: overflow from mantissa after rounding"
  | malformedExponent => "Failed to parse"
  | exponentTooGreat exponent =>
    "Scale exceeds the maximum precision allowed: " ++ toString exponent ++ " > 28"
  | tooGreat => "Number exceeds maximum value that can be represented."

/-! ### Plain decimals -/

/-- What has been read of a plain decimal. -/
structure Reading where
  mantissa : Nat
  scale : Nat
  /-- whether the point has been read -/
  pointRead : Bool
  /-- whether a digit has been read -/
  digitRead : Bool

/-- Nothing read yet. -/
def Reading.start : Reading :=
  ⟨0, 0, false, false⟩

/-- The error for a character that cannot stand at its place. -/
def misplaced (character : Char) : TextError :=
  if character = '.' then .twoPoints
  else if character = '_' then .leadingSeparator
  else .unknownCharacter

/-- The decimal of a sign, a mantissa and a scale. A zero has no sign. -/
def assemble (negative : Bool) (mantissa scale : Nat) : Except TextError Decimal :=
  match ofParts? (negative && mantissa != 0) mantissa scale with
  | some decimal => .ok decimal
  | none => .error .tooManyDigits

/-- Checks the characters behind the last digit that counts. -/
def checkRest : List Char → Except TextError Unit
  | [] => .ok ()
  | character :: rest =>
    if character.isDigit || character == '_' then checkRest rest
    else .error (misplaced character)

/-- Rounds by the first digit for which there is no room. When the mantissa has no room for
the rounded number either, its last digit goes. -/
def roundBy (negative : Bool) (mantissa scale digit : Nat) : Except TextError Decimal :=
  if digit < 5 then
    assemble negative mantissa scale
  else if mantissa + 1 < Nat.pow 2 96 then
    assemble negative (mantissa + 1) scale
  else if scale = 0 then
    .error .roundingOverflow
  else
    assemble negative ((mantissa + 1 + 4) / 10) (scale - 1)

/-- Whether a further digit behind the point finds room. -/
def Reading.hasRoom (reading : Reading) (digit : Nat) : Bool :=
  reading.scale < 28 && reading.mantissa * 10 + digit < Nat.pow 2 96

/-- Reads the rest of a plain decimal. -/
def readPlain (negative : Bool) : Reading → List Char → Except TextError Decimal
  | reading, [] =>
    if reading.digitRead then assemble negative reading.mantissa reading.scale
    else .error .noDigits
  | reading, character :: rest =>
    if character.isDigit then
      let digit := character.toNat - '0'.toNat
      if reading.pointRead then
        if reading.hasRoom digit then
          readPlain negative
            ⟨reading.mantissa * 10 + digit, reading.scale + 1, true, true⟩ rest
        else do
          checkRest rest
          roundBy negative reading.mantissa reading.scale digit
      else if reading.mantissa * 10 + digit < Nat.pow 2 96 then
        readPlain negative ⟨reading.mantissa * 10 + digit, 0, false, true⟩ rest
      else
        .error .tooManyDigits
    else if character = '.' ∧ !reading.pointRead then
      readPlain negative { reading with pointRead := true } rest
    else if character = '_' ∧ reading.digitRead then
      readPlain negative reading rest
    else
      .error (misplaced character)

/-- Reads a plain decimal: an optional sign, digits and at most one point. -/
def ofPlainText : List Char → Except TextError Decimal
  | [] => .error .empty
  | '-' :: rest => readPlain true .start rest
  | '+' :: rest => readPlain false .start rest
  | characters => readPlain false .start characters

/-! ### Scientific notation -/

/-- A mantissa without its last digits, rounded by the first of them, a half upwards. -/
def dropDigits (mantissa count : Nat) : Nat :=
  if count = 0 then mantissa
  else
    mantissa / Nat.pow 10 count +
      (if 5 ≤ mantissa / Nat.pow 10 (count - 1) % 10 then 1 else 0)

/-- The decimal of given parts, or the error when they do not fit. -/
def fit (negative : Bool) (mantissa scale : Nat) : Except TextError Decimal :=
  match ofParts? negative mantissa scale with
  | some decimal => .ok decimal
  | none => .error .tooGreat

/-- A decimal divided by a power of ten. -/
def shrink (decimal : Decimal) (power : Nat) : Except TextError Decimal :=
  if 28 < power then
    .error (.exponentTooGreat power)
  else if 28 < decimal.scale + power then
    fit decimal.negative (dropDigits decimal.mantissa (decimal.scale + power - 28)) 28
  else
    fit decimal.negative decimal.mantissa (decimal.scale + power)

/-- A decimal times a power of ten. -/
def grow (decimal : Decimal) (power : Nat) : Except TextError Decimal :=
  if power ≤ decimal.scale then
    fit decimal.negative decimal.mantissa (decimal.scale - power)
  else if 28 < power then
    .error (.exponentTooGreat power)
  else
    fit decimal.negative (decimal.mantissa * Nat.pow 10 (power - decimal.scale)) 0

/-- Reads an exponent, which has no more than thirty-two bits. -/
def readExponent (characters : List Char) : Except TextError Nat :=
  match Integer.ofText .uint32 characters with
  | .ok exponent => .ok exponent.value.toNat
  | .error _ => .error .malformedExponent

/-- Whether a character stands between the base and the exponent. -/
def isExponentMark (character : Char) : Bool :=
  character == 'e' || character == 'E'

/-- Reads a decimal in scientific notation: what stands before the mark, and behind it. -/
def ofScientificText (base exponent : List Char) : Except TextError Decimal := do
  let decimal ← ofPlainText base
  match exponent with
  | '-' :: digits => decimal.shrink (← readExponent digits)
  | _ => decimal.grow (← readExponent exponent)

/-- Reads a decimal number. -/
def ofText (characters : List Char) : Except TextError Decimal :=
  match ofPlainText characters with
  | .ok decimal => .ok decimal
  | .error reason =>
    match characters.dropWhile (!isExponentMark ·) with
    | _ :: exponent => ofScientificText (characters.takeWhile (!isExponentMark ·)) exponent
    | [] => .error reason

end SqlRecords.Decimal
