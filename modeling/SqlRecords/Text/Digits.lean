/-
This file writes whole numbers with a least number of decimal digits, and reads hex digits.
-/

namespace SqlRecords.Text

/-- The decimal digits of a number, with zeros in front up to the given width. -/
def zeroPadded (width number : Nat) : List Char :=
  let digits := Nat.toDigits 10 number
  List.replicate (width - digits.length) '0' ++ digits

/-- Drops the zeros at the end of a row of digits, but never its first digit. -/
def dropEndZeros : List Char → List Char
  | [] => []
  | digit :: rest => digit :: (rest.reverse.dropWhile (· == '0')).reverse

/-- The value of a hex digit in either letter case. -/
def hexDigit? (character : Char) : Option Nat :=
  if character.isDigit then some (character.toNat - '0'.toNat)
  else if 'a' ≤ character ∧ character ≤ 'f' then some (character.toNat - 'a'.toNat + 10)
  else if 'A' ≤ character ∧ character ≤ 'F' then some (character.toNat - 'A'.toNat + 10)
  else none

end SqlRecords.Text
