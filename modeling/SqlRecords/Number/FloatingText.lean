/-
This file writes floating point numbers as decimal text and reads them back.

Writing has two steps. The shortest digits that identify the number are chosen first; a layout
then says where the point goes, whether a whole number keeps a point and a zero, and from which
size on an exponent is written instead. The library writes numbers in three layouts: one for
plain text, one for messages and one for SQL literals.
-/

import SqlRecords.Number.Integer
import SqlRecords.Number.Shortest

namespace SqlRecords.Floating

variable {precision : Precision}

/-! ### Layouts -/

/-- How the chosen digits are laid out. The position of a number is the place of its point
counted from its first digit: the number is `0.ddd` times ten to the position. -/
structure Layout where
  /-- which of two equally near decimals is chosen -/
  tie : Tie
  /-- whether a whole number ends in a point and a zero -/
  keepsPoint : Bool
  /-- the least and the greatest position written without an exponent, if there are such -/
  positions : Option (Int × Int)

/-- Plain text: never an exponent, and no point in a whole number. -/
def Layout.plain : Layout where
  tie := .greater
  keepsPoint := false
  positions := none

/-- Messages: a point in every number, and an exponent below `0.0001` and from `10 ^ 16` on. -/
def Layout.message : Layout where
  tie := .greater
  keepsPoint := true
  positions := some (-3, 16)

/-- SQL literals: a point in every number without exponent, and an exponent outside the range
in which the precision tells neighbouring whole numbers apart. -/
def Layout.literal : Precision → Layout
  | .single => ⟨.even, true, some (-5, 13)⟩
  | .double => ⟨.even, true, some (-4, 16)⟩

/-! ### Writing -/

/-- Digits written with a point at the given position and no exponent. -/
def positional (keepsPoint : Bool) (digits : List Char) (position : Int) : List Char :=
  if position ≤ 0 then
    ['0', '.'] ++ List.replicate (-position).toNat '0' ++ digits
  else if (digits.length : Int) ≤ position then
    digits ++ List.replicate (position.toNat - digits.length) '0' ++
      (if keepsPoint then ['.', '0'] else [])
  else
    digits.take position.toNat ++ ['.'] ++ digits.drop position.toNat

/-- Digits written with one digit before the point and an exponent. -/
def scientific (digits : List Char) (position : Int) : List Char :=
  digits.take 1 ++ (if digits.length = 1 then [] else ['.'] ++ digits.drop 1) ++ ['e'] ++
    Integer.intText (position - 1)

/-- Lays out the digits of a positive number. -/
def Layout.arrange (layout : Layout) (decimal : Digits) : List Char :=
  let digits := Nat.toDigits 10 decimal.digits
  let position := decimal.power + digits.length
  match layout.positions with
  | some (least, greatest) =>
    if least ≤ position ∧ position ≤ greatest then
      positional layout.keepsPoint digits position
    else
      scientific digits position
  | none => positional layout.keepsPoint digits position

/-- The text of a number in a layout. A zero keeps its sign. -/
def characters (layout : Layout) (number : Floating precision) : List Char :=
  match number.meaning with
  | .notANumber => "NaN".toList
  | .infinite negative => (if negative then ['-'] else []) ++ "inf".toList
  | .finite negative mantissa power =>
    (if negative then ['-'] else []) ++
      if mantissa = 0 then
        positional layout.keepsPoint ['0'] 1
      else
        layout.arrange (shortest precision layout.tie mantissa power)

/-- The text of a number in a layout. -/
def text (layout : Layout) (number : Floating precision) : String :=
  String.ofList (number.characters layout)

/-! ### Reading -/

/-- Why a text is not a floating point number. -/
inductive TextError where
  | empty
  | invalid
deriving DecidableEq, Repr

/-- The wording of the reason. -/
def TextError.message : TextError → String
  | empty => "cannot parse float from empty string"
  | invalid => "invalid float literal"

/-- Splits an optional sign off a text; the flag says whether it is a minus. -/
def splitSign : List Char → Bool × List Char
  | '-' :: rest => (true, rest)
  | '+' :: rest => (false, rest)
  | rest => (false, rest)

/-- Reads a whole exponent: an optional sign and at least one digit. -/
def readExponent (characters : List Char) : Option Int :=
  let (negative, digits) := splitSign characters
  if digits.isEmpty || !digits.all Char.isDigit then
    none
  else
    let magnitude : Int := Nat.ofDigitChars 10 digits 0
    some (if negative then -magnitude else magnitude)

/-- The number nearest to a decimal number. Outside a thousand places around the point no
digit matters any more. -/
def ofDecimal (precision : Precision) (negative : Bool) (digits : Nat) (power : Int) :
    Floating precision :=
  let position := power + (Nat.toDigits 10 digits).length
  if digits = 0 ∨ position < -1000 then
    zero precision negative
  else if 1000 < position then
    infinity precision negative
  else if 0 ≤ power then
    ofFraction precision negative (digits * Nat.pow 10 power.toNat) 1
  else
    ofFraction precision negative digits (Nat.pow 10 (-power).toNat)

/-- Reads an unsigned decimal number: digits with an optional point among or beside them, then
an optional exponent. -/
def readDecimal (precision : Precision) (negative : Bool) (characters : List Char) :
    Option (Floating precision) := do
  let whole := characters.takeWhile Char.isDigit
  let afterWhole := characters.dropWhile Char.isDigit
  let (fraction, afterFraction) :=
    match afterWhole with
    | '.' :: rest => (rest.takeWhile Char.isDigit, rest.dropWhile Char.isDigit)
    | rest => ([], rest)
  if (whole ++ fraction).isEmpty then
    none
  else
    let exponent ←
      match afterFraction with
      | [] => some 0
      | mark :: rest => if mark = 'e' ∨ mark = 'E' then readExponent rest else none
    some (ofDecimal precision negative (Nat.ofDigitChars 10 (whole ++ fraction) 0)
      (exponent - fraction.length))

/-- Reads the names of the values that are no decimal numbers, in any letter case. -/
def readName (precision : Precision) (negative : Bool) (characters : List Char) :
    Option (Floating precision) :=
  let name := String.ofList (characters.map Char.toLower)
  if name = "nan" then some (notANumber precision)
  else if name = "inf" ∨ name = "infinity" then some (infinity precision negative)
  else none

/-- Reads a floating point number, rounding it to the nearest one of the precision. -/
def ofText (precision : Precision) (characters : List Char) :
    Except TextError (Floating precision) :=
  if characters.isEmpty then
    .error .empty
  else
    let (negative, unsigned) := splitSign characters
    match readDecimal precision negative unsigned with
    | some number => .ok number
    | none =>
      match readName precision negative unsigned with
      | some number => .ok number
      | none => .error .invalid

end SqlRecords.Floating
