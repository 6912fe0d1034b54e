/-
This file holds the integers a column can store: eight kinds, told apart by their range.

An integer of a kind is a number together with the proof that it lies in the kind's range, so
no operation can wrap or truncate one. Reading a text goes from left to right and stops at the
first character that is no digit or that takes the number out of the range; which of the two
came first decides the error.
-/

namespace SqlRecords

/-! ### Kinds and their ranges -/

/-- The kinds of stored integers. -/
inductive IntegerKind where
  | int8
  | int16
  | int32
  | int64
  | uint8
  | uint16
  | uint32
  | uint64
deriving DecidableEq, Repr

namespace IntegerKind

/-- Whether the kind has negative members. -/
def isSigned : IntegerKind → Bool
  | int8 | int16 | int32 | int64 => true
  | uint8 | uint16 | uint32 | uint64 => false

/-- The least member of a kind. -/
def least : IntegerKind → Int
  | int8 => -128
  | int16 => -32768
  | int32 => -2147483648
  | int64 => -9223372036854775808
  | uint8 | uint16 | uint32 | uint64 => 0

/-- The greatest member of a kind. -/
def greatest : IntegerKind → Int
  | int8 => 127
  | int16 => 32767
  | int32 => 2147483647
  | int64 => 9223372036854775807
  | uint8 => 255
  | uint16 => 65535
  | uint32 => 4294967295
  | uint64 => 18446744073709551615

/-- The name of the kind in messages. -/
def name : IntegerKind → String
  | int8 => "i8"
  | int16 => "i16"
  | int32 => "i32"
  | int64 => "i64"
  | uint8 => "u8"
  | uint16 => "u16"
  | uint32 => "u32"
  | uint64 => "u64"

end IntegerKind

/-- An integer of a kind. -/
structure Integer (kind : IntegerKind) where
  value : Int
  least_le : kind.least ≤ value
  le_greatest : value ≤ kind.greatest
deriving DecidableEq

namespace Integer

variable {kind : IntegerKind}

/-- The member of a kind with the given value, if the value lies in the range. -/
def ofInt? (kind : IntegerKind) (value : Int) : Option (Integer kind) :=
  if range : kind.least ≤ value ∧ value ≤ kind.greatest then
    some ⟨value, range.1, range.2⟩
  else
    none

/-- Zero, which every kind has. -/
def zero (kind : IntegerKind) : Integer kind :=
  ⟨0, by cases kind <;> decide, by cases kind <;> decide⟩

/-! ### Writing -/

/-- The decimal digits of an integer, a minus in front of a negative one. -/
def intText (value : Int) : List Char :=
  if value < 0 then '-' :: Nat.toDigits 10 value.natAbs else Nat.toDigits 10 value.natAbs

/-- The decimal text of a stored integer. -/
def text (number : Integer kind) : String :=
  String.ofList (intText number.value)

/-! ### Reading -/

/-- Why a text is not an integer of a kind. -/
inductive TextError where
  | empty
  | invalidDigit
  | tooLarge
  | tooSmall
deriving DecidableEq, Repr

/-- The wording of the reason. -/
def TextError.message : TextError → String
  | empty => "cannot parse integer from empty string"
  | invalidDigit => "invalid digit found in string"
  | tooLarge => "number too large to fit in target type"
  | tooSmall => "number too small to fit in target type"

/-- The number with one more decimal digit at its end, counted away from zero in the given
direction. -/
def extend (number : Integer kind) (negative : Bool) (digit : Nat) : Option (Integer kind) :=
  ofInt? kind (number.value * 10 + (if negative then -(digit : Int) else digit))

/-- Reads the digits that follow the ones already read into a number. -/
def readDigits (negative : Bool) : Integer kind → List Char → Except TextError (Integer kind)
  | number, [] => .ok number
  | number, character :: rest =>
    if character.isDigit then
      match number.extend negative (character.toNat - '0'.toNat) with
      | some longer => readDigits negative longer rest
      | none => .error (if negative then .tooSmall else .tooLarge)
    else
      .error .invalidDigit

/-- Reads an integer of a kind: an optional sign, a minus only where the kind has negative
members, then at least one digit. -/
def ofText (kind : IntegerKind) : List Char → Except TextError (Integer kind)
  | [] => .error .empty
  | ['+'] | ['-'] => .error .invalidDigit
  | '+' :: digits => readDigits false (zero kind) digits
  | '-' :: digits =>
    if kind.isSigned then readDigits true (zero kind) digits else .error .invalidDigit
  | digits => readDigits false (zero kind) digits

end Integer

end SqlRecords
