/-
This file reads and writes internet addresses of the fourth version: four bytes.

An address is read from up to four numbers between points, each decimal, octal with a zero in
front, or hexadecimal with `0x` in front; the last one fills all the bytes that the others
leave. A domain name is taken for an address when what stands behind its last point is a
number. On writing, every byte is a decimal number.
-/

import SqlRecords.Text.Digits
import SqlRecords.Text.Split

namespace SqlRecords.Url

/-! ### Reading -/

/-- The value of the digits of a number to a base, if all of them are such digits. No digits
stand for zero. -/
def digitsValue? (base : Nat) (digits : List Char) : Option Nat := do
  let values ← digits.mapM Text.hexDigit?
  if values.all (· < base) then
    some (values.foldl (fun number value => base * number + value) 0)
  else
    none

/-- The value of a number of an address. -/
def addressNumber? : List Char → Option Nat
  | [] => none
  | '0' :: 'x' :: digits => digitsValue? 16 digits
  | '0' :: 'X' :: digits => digitsValue? 16 digits
  | ['0'] => some 0
  | '0' :: digits => digitsValue? 8 digits
  | digits => digitsValue? 10 digits

/-- The parts of a domain name between its points, without an empty last one. -/
def domainParts (domain : List Char) : List (List Char) :=
  let parts := Text.splitAt '.' domain
  if parts.getLast? = some [] then parts.dropLast else parts

/-- Whether a domain name is meant for an address. -/
def endsInNumber (domain : List Char) : Bool :=
  match (domainParts domain).getLast? with
  | none => false
  | some last => (!last.isEmpty && last.all Char.isDigit) || (addressNumber? last).isSome

/-- The lowest bytes of a number, the highest of them first. -/
def lowBytes (count number : Nat) : List Nat :=
  (List.range count).reverse.map fun place => number / Nat.pow 256 place % 256

/-- Reads the bytes of an address. -/
def readIpv4 (domain : List Char) : Option (List Nat) := do
  let numbers ← (domainParts domain).mapM addressNumber?
  let last ← numbers.getLast?
  let bytes := numbers.dropLast
  let missing := 4 - bytes.length
  if bytes.length < 4 ∧ bytes.all (· < 256) ∧ last < Nat.pow 256 missing then
    some (bytes ++ lowBytes missing last)
  else
    none

/-! ### Writing -/

/-- The text of an address. -/
def ipv4Text (bytes : List Nat) : List Char :=
  List.intercalate ['.'] (bytes.map fun byte => Nat.toDigits 10 byte)

end SqlRecords.Url
