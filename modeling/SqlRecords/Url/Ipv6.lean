/-
This file reads and writes internet addresses of the sixth version: eight numbers of sixteen
bits.

An address is written as hex numbers between colons. Two colons in a row stand for as many
zeros as are missing, once; the last two numbers may be given as four decimal ones between
points. On writing, the longest row of at least two zeros is left out, the first of two equally
long ones.
-/

import SqlRecords.Text.Digits
import SqlRecords.Text.Split

namespace SqlRecords.Url

/-! ### Reading -/

/-- The value of a number between one and four hex digits long. -/
def readPiece (digits : List Char) : Option Nat :=
  if digits.isEmpty || 4 < digits.length then
    none
  else
    (digits.mapM Text.hexDigit?).map fun values =>
      values.foldl (fun number value => 16 * number + value) 0

/-- The value of a decimal number below 256 without needless zeros in front. -/
def readOctet (digits : List Char) : Option Nat :=
  if digits.isEmpty || !digits.all Char.isDigit || (1 < digits.length && digits.head? == some '0')
  then
    none
  else
    let value := Nat.ofDigitChars 10 digits 0
    if value < 256 then some value else none

/-- The two numbers that four decimal ones between points stand for. -/
def readDotted (characters : List Char) : Option (List Nat) := do
  match ← (Text.splitAt '.' characters).mapM readOctet with
  | [first, second, third, fourth] => some [first * 256 + second, third * 256 + fourth]
  | _ => none

/-- Reads the numbers between colons. Only the last one may be four decimal ones. -/
def readPieces : List (List Char) → Option (List Nat)
  | [] => some []
  | [last] => if last.contains '.' then readDotted last else (readPiece last).map ([·])
  | piece :: rest => do
    let number ← readPiece piece
    let numbers ← readPieces rest
    some (number :: numbers)

/-- Reads one side of the two colons, which may be empty. -/
def readSide (characters : List Char) : Option (List Nat) :=
  if characters.isEmpty then some [] else readPieces (Text.splitAt ':' characters)

/-- What stands before and after the first two colons in a row, if there are any. -/
def splitDoubleColon : List Char → Option (List Char × List Char)
  | ':' :: ':' :: rest => some ([], rest)
  | character :: rest => (splitDoubleColon rest).map fun sides => (character :: sides.1, sides.2)
  | [] => none

/-- Reads an address. -/
def readIpv6 (characters : List Char) : Option (List Nat) :=
  match splitDoubleColon characters with
  | some (before, after) => do
    if before.contains '.' then none
    let left ← readSide before
    let right ← readSide after
    if left.length + right.length < 8 then
      some (left ++ List.replicate (8 - left.length - right.length) 0 ++ right)
    else
      none
  | none => do
    let numbers ← readPieces (Text.splitAt ':' characters)
    if numbers.length = 8 then some numbers else none

/-! ### Writing -/

/-- The length of the row of zeros that a list begins with. -/
def zeroRun (numbers : List Nat) : Nat :=
  (numbers.takeWhile (· == 0)).length

/-- The position and the length of the longest row of zeros, the first of equally long ones. -/
def longestZeroRun (numbers : List Nat) : Nat × Nat :=
  (List.range numbers.length).foldl
    (fun best start =>
      let length := zeroRun (numbers.drop start)
      if best.2 < length then (start, length) else best)
    (0, 0)

/-- Numbers as hex numbers between colons. -/
def joinPieces (numbers : List Nat) : List Char :=
  List.intercalate [':'] (numbers.map fun number => Nat.toDigits 16 number)

/-- The text of an address. -/
def ipv6Text (numbers : List Nat) : List Char :=
  let (start, length) := longestZeroRun numbers
  if length < 2 then
    joinPieces numbers
  else
    joinPieces (numbers.take start) ++ [':', ':'] ++ joinPieces (numbers.drop (start + length))

end SqlRecords.Url
