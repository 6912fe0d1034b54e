/-
This file holds the values that cells of a table have, and what they look like in messages.

Every type of value has a null of its own, and there is one null of no type, which a server
gives when it does not say what is missing. Two values are equal when they have the same type
and are both null or denote the same thing: floating point numbers compare as numbers, decimals
whatever their scales, and zoned date-times as instants.
-/

import SqlRecords.Calendar.DateTime
import SqlRecords.Number.Decimal
import SqlRecords.Number.FloatingText
import SqlRecords.Text.Quoted
import SqlRecords.Uuid

namespace SqlRecords

/-! ### Values and their types -/

/-- The types of values. -/
inductive ValueType where
  | boolean
  | integer (kind : IntegerKind)
  | floating (precision : Precision)
  | decimal
  | text
  | blob
  | date
  | time
  | timestamp
  | zoned
  | uuid
deriving DecidableEq, Repr

/-- The value of a cell: the null of no type, or a value of a type, where `none` is the null of
that type. -/
inductive Value where
  | null
  | boolean (content : Option Bool)
  | integer (kind : IntegerKind) (content : Option (Integer kind))
  | floating (precision : Precision) (content : Option (Floating precision))
  | decimal (content : Option Decimal)
  | text (content : Option String)
  | blob (content : Option (List UInt8))
  | date (content : Option Date)
  | time (content : Option Time)
  | timestamp (content : Option DateTime)
  | zoned (content : Option ZonedDateTime)
  | uuid (content : Option Uuid)
deriving DecidableEq

namespace Value

instance : Inhabited Value := ⟨null⟩

/-- The type of a value; the null of no type has none. -/
def type? : Value → Option ValueType
  | null => none
  | boolean _ => some .boolean
  | integer kind _ => some (.integer kind)
  | floating precision _ => some (.floating precision)
  | decimal _ => some .decimal
  | text _ => some .text
  | blob _ => some .blob
  | date _ => some .date
  | time _ => some .time
  | timestamp _ => some .timestamp
  | zoned _ => some .zoned
  | uuid _ => some .uuid

/-- Whether a value is a null of any kind. -/
def isNull : Value → Bool
  | null => true
  | boolean content => content.isNone
  | integer _ content => content.isNone
  | floating _ content => content.isNone
  | decimal content => content.isNone
  | text content => content.isNone
  | blob content => content.isNone
  | date content => content.isNone
  | time content => content.isNone
  | timestamp content => content.isNone
  | zoned content => content.isNone
  | uuid content => content.isNone

/-- Whether two values have the same type. -/
def sameType (left right : Value) : Bool :=
  left.type? == right.type?

/-- Whether two optional contents are both missing or both there and the same by a test. -/
def sameContent {Content : Type} (same : Content → Content → Bool) :
    Option Content → Option Content → Bool
  | none, none => true
  | some left, some right => same left right
  | _, _ => false

/-- Equality of values. -/
def same : Value → Value → Bool
  | null, null => true
  | boolean left, boolean right => left == right
  | integer leftKind left, integer rightKind right =>
    leftKind == rightKind && left.map Integer.value == right.map Integer.value
  | floating leftPrecision left, floating rightPrecision right =>
    if equal : leftPrecision = rightPrecision then
      sameContent Floating.sameNumber (equal ▸ left) right
    else
      false
  | decimal left, decimal right => sameContent Decimal.sameNumber left right
  | text left, text right => left == right
  | blob left, blob right => left == right
  | date left, date right => left == right
  | time left, time right => left == right
  | timestamp left, timestamp right => left == right
  | zoned left, zoned right => sameContent ZonedDateTime.sameInstant left right
  | uuid left, uuid right => left == right
  | _, _ => false

/-! ### Values in messages -/

/-- The text of a truth value. -/
def booleanText (content : Bool) : String :=
  if content then "true" else "false"

/-- Bytes in a message: their numbers in brackets. -/
def bytesText (bytes : List UInt8) : String :=
  "[" ++ String.intercalate ", " (bytes.map fun byte => toString byte.toNat) ++ "]"

/-- A content in a message, behind the name of its type. -/
def describeContent {Content : Type} (name : String) (write : Content → String) :
    Option Content → String
  | none => name ++ "(None)"
  | some content => name ++ "(Some(" ++ write content ++ "))"

/-- The name of the type of integers of a kind in messages. -/
def integerTypeName : IntegerKind → String
  | .int8 => "Int8"
  | .int16 => "Int16"
  | .int32 => "Int32"
  | .int64 => "Int64"
  | .uint8 => "UInt8"
  | .uint16 => "UInt16"
  | .uint32 => "UInt32"
  | .uint64 => "UInt64"

/-- The name of the type of floating point numbers of a precision in messages. -/
def floatingTypeName : Precision → String
  | .single => "Float32"
  | .double => "Float64"

/-- A value as messages show it: the name of its type and its content. -/
def describe : Value → String
  | null => "Null"
  | boolean content => describeContent "Boolean" booleanText content
  | integer kind content => describeContent (integerTypeName kind) Integer.text content
  | floating precision content =>
    describeContent (floatingTypeName precision) (Floating.text .message) content
  | decimal content => describeContent "Decimal" Decimal.text content
  | text content => describeContent "Varchar" Text.quoted content
  | blob content => describeContent "Blob" bytesText content
  | date content => describeContent "Date" Date.text content
  | time content => describeContent "Time" Time.text content
  | timestamp content => describeContent "Timestamp" DateTime.text content
  | zoned content => describeContent "TimestampWithTimezone" ZonedDateTime.text content
  | uuid content => describeContent "Uuid" Uuid.text content

end Value

end SqlRecords
