/-
This file decodes the cells of rows that a MySQL server sends.

A server sends a cell as text or in binary form. Text cells are bytes whatever they mean, and the
type of their column tells how to read them; bytes of a column that is neither a number nor a
geometry are text where the column has a character set and they decode, and stay bytes
otherwise. Binary cells say themselves what they are.
-/

import SqlRecords.Number.Decimal.Reader
import SqlRecords.Row
import SqlRecords.Text.Utf8

namespace SqlRecords.Mysql

/-! ### Columns -/

/-- The types of columns that a server declares. -/
inductive ColumnType where
  | decimal
  | tiny
  | short
  | long
  | float
  | double
  | null
  | timestamp
  | longLong
  | int24
  | date
  | time
  | dateTime
  | year
  | newDate
  | varChar
  | bit
  | timestamp2
  | dateTime2
  | time2
  | typedArray
  | vector
  | unknown
  | json
  | newDecimal
  | enum
  | set
  | tinyBlob
  | mediumBlob
  | longBlob
  | blob
  | varString
  | string
  | geometry
deriving DecidableEq, Repr

/-- The types with the names a server gives them. -/
def ColumnType.names : List (ColumnType × String) :=
  [(decimal, "DECIMAL"), (tiny, "TINY"), (short, "SHORT"), (long, "LONG"), (float, "FLOAT"),
    (double, "DOUBLE"), (null, "NULL"), (timestamp, "TIMESTAMP"), (longLong, "LONGLONG"),
    (int24, "INT24"), (date, "DATE"), (time, "TIME"), (dateTime, "DATETIME"), (year, "YEAR"),
    (newDate, "NEWDATE"), (varChar, "VARCHAR"), (bit, "BIT"), (timestamp2, "TIMESTAMP2"),
    (dateTime2, "DATETIME2"), (time2, "TIME2"), (typedArray, "TYPED_ARRAY"),
    (vector, "VECTOR"), (unknown, "UNKNOWN"), (json, "JSON"), (newDecimal, "NEWDECIMAL"),
    (enum, "ENUM"), (set, "SET"), (tinyBlob, "TINY_BLOB"), (mediumBlob, "MEDIUM_BLOB"),
    (longBlob, "LONG_BLOB"), (blob, "BLOB"), (varString, "VAR_STRING"), (string, "STRING"),
    (geometry, "GEOMETRY")]

/-- The type with a name. -/
def ColumnType.ofName? (name : String) : Option ColumnType :=
  (names.find? fun entry => entry.2 == name).map Prod.fst

/-- What the bytes of a text cell mean. -/
inductive TextMeaning where
  | integer
  | floating (precision : Precision)
  | decimal
  | bits
  | bytes
  | characters
deriving DecidableEq, Repr

/-- What the bytes of a text cell mean in a column of a type. -/
def ColumnType.meaning : ColumnType → TextMeaning
  | tiny | short | int24 | long | longLong | year => .integer
  | float => .floating .single
  | double => .floating .double
  | decimal | newDecimal => .decimal
  | bit => .bits
  | geometry => .bytes
  | _ => .characters

/-- A column of a result, as the server describes it. -/
structure ColumnInfo where
  name : String
  type : ColumnType
  unsigned : Bool
  /-- the number of the character set -/
  charset : Nat
deriving DecidableEq, Repr

/-- The number that stands for the lack of a character set. -/
def binaryCharset : Nat := 63

/-! ### Cells -/

/-- A cell as the server sends it. -/
inductive Cell where
  | null
  | bytes (content : List UInt8)
  | int (content : Integer .int64)
  | uint (content : Integer .uint64)
  | float (content : Floating .single)
  | double (content : Floating .double)
  | date (year month day hour minute second microsecond : Nat)
  | time (negative : Bool) (days hours minutes seconds microseconds : Nat)
deriving DecidableEq

/-- Why a cell cannot be decoded. -/
inductive CellError where
  | utf8 (reason : Text.Utf8Error)
  | integer (reason : Integer.TextError)
  | floating (reason : Floating.TextError)
  | decimal (reason : Decimal.TextError)
  | calendar (part : CalendarPart)
  /-- a time interval that is no time of day -/
  | interval (negative : Bool) (days hours minutes seconds : Nat)
deriving DecidableEq, Repr

/-- The wording of the reason. -/
def CellError.message : CellError → String
  | utf8 reason => reason.message
  | integer reason => reason.message
  | floating reason => reason.message
  | decimal reason => reason.message
  | calendar part => part.message
  | interval negative days hours minutes seconds =>
    "Time interval `" ++ (if negative then "-" else "") ++ toString days ++ " days " ++
      String.ofList (Text.zeroPadded 2 hours ++ [':'] ++ Text.zeroPadded 2 minutes ++ [':'] ++
        Text.zeroPadded 2 seconds) ++ "` does not fit a time of day"

/-! ### Decoding -/

/-- The stored integer with the last sixty-four bits of a number. -/
def wordOf (number : Int) : Integer .uint64 where
  value := number % 18446744073709551616
  least_le := Int.emod_nonneg _ (by decide)
  le_greatest :=
    Int.lt_add_one_iff.mp (Int.emod_lt_of_pos number (by decide : (0 : Int) < 18446744073709551616))

/-- The number that bytes give when the first one counts most. -/
def bitsOf (bytes : List UInt8) : Nat :=
  bytes.foldl (fun number byte => number * 256 + byte.toNat) 0

/-- Decodes the bytes of a text cell. -/
def decodeBytes (column : ColumnInfo) (bytes : List UInt8) : Except CellError Value := do
  match column.type.meaning with
  | .integer =>
    let text ← (Text.decodeUtf8 bytes).mapError .utf8
    let kind : IntegerKind := if column.unsigned then .uint64 else .int64
    let number ← (Integer.ofText kind text.toList).mapError .integer
    return .integer kind (some number)
  | .floating precision =>
    let text ← (Text.decodeUtf8 bytes).mapError .utf8
    let number ← (Floating.ofText precision text.toList).mapError .floating
    return .floating precision (some number)
  | .decimal =>
    let text ← (Text.decodeUtf8 bytes).mapError .utf8
    let number ← (Decimal.ofText text.toList).mapError .decimal
    return .decimal (some number)
  | .bits => return .integer .uint64 (some (wordOf (bitsOf bytes)))
  | .bytes => return .blob (some bytes)
  | .characters =>
    if column.charset = binaryCharset then
      return .blob (some bytes)
    else
      match Text.decodeUtf8 bytes with
      | .ok text => return .text (some text)
      | .error _ => return .blob (some bytes)

/-- Decodes a cell. -/
def decodeCell (column : ColumnInfo) : Cell → Except CellError Value
  | .null => .ok .null
  | .bytes content => decodeBytes column content
  | .int content =>
    if column.unsigned then .ok (.integer .uint64 (some (wordOf content.value)))
    else .ok (.integer .int64 (some content))
  | .uint content => .ok (.integer .uint64 (some content))
  | .float content => .ok (.floating .single (some content))
  | .double content => .ok (.floating .double (some content))
  | .date year month day hour minute second microsecond => do
    let date ← (Date.ofParts year month day).mapError .calendar
    let time ← (Time.ofMicroseconds hour minute second microsecond).mapError .calendar
    return .timestamp (some ⟨date, time⟩)
  | .time negative days hours minutes seconds microseconds =>
    if negative ∨ days ≠ 0 then
      .error (.interval negative days hours minutes seconds)
    else do
      let time ← (Time.ofMicroseconds hours minutes seconds microseconds).mapError .calendar
      return .time (some time)

/-- Why a row cannot be decoded. -/
structure RowError where
  column : String
  reason : CellError
deriving DecidableEq, Repr

/-- The wording of the reason. -/
def RowError.message (error : RowError) : String :=
  "While decoding column `" ++ error.column ++ "`: " ++ error.reason.message

/-- Decodes a row. Cells that are missing are null. -/
def decodeRow (columns : List ColumnInfo) (cells : List Cell) : Except RowError ResultRow := do
  let padded := cells ++ List.replicate columns.length Cell.null
  let values ← (columns.zip padded).mapM fun cell =>
    (decodeCell cell.1 cell.2).mapError (RowError.mk cell.1.name)
  return ⟨columns.map ColumnInfo.name, values⟩

end SqlRecords.Mysql
