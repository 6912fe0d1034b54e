/-
This file holds the database types a column can be declared with, and what they do to the values
read from it.

Many database types store the same things, so the tags fall into families. Converting a value by
a tag gives a value of the family's type, or says why the value has no counterpart there. Nulls
pass unchanged.
-/

import SqlRecords.Value.Conversion

namespace SqlRecords

/-! ### Tags and their families -/

/-- The database types of columns. -/
inductive ColumnTag where
  | decimal
  | newDecimal
  | bit
  | byte
  | int16
  | int24
  | int32
  | int64
  | float
  | double
  | timestamp
  | date
  | time
  | dateTime
  | year
  | newDate
  | varString
  | blob
  | tinyBlob
  | mediumBlob
  | longBlob
  | json
  | enum
  | set
  | geometry
  | uByte
  | uInt16
  | uInt24
  | uInt32
  | uInt64
  | string
  | varChar
  | binary
  | varBinary
  | tinyText
  | mediumText
  | longText
  | text
  | guid
deriving DecidableEq, Repr

/-- What the columns of a tag store. -/
inductive TagFamily where
  | decimal
  | integer (kind : IntegerKind)
  | floating (precision : Precision)
  | time
  | timestamp
  | year
  | blob
  | text
  | uuid
deriving DecidableEq, Repr

namespace ColumnTag

/-- The family of a tag. -/
def family : ColumnTag → TagFamily
  | decimal | newDecimal => .decimal
  | bit | byte => .integer .int8
  | uByte => .integer .uint8
  | int16 => .integer .int16
  | uInt16 => .integer .uint16
  | int24 | int32 => .integer .int32
  | uInt24 | uInt32 => .integer .uint32
  | int64 => .integer .int64
  | uInt64 => .integer .uint64
  | float => .floating .single
  | double => .floating .double
  | time => .time
  | timestamp | date | dateTime | newDate => .timestamp
  | year => .year
  | blob | tinyBlob | mediumBlob | longBlob | geometry => .blob
  | guid => .uuid
  | varString | string | varChar | binary | varBinary | tinyText | mediumText | longText | text
  | json | enum | set => .text

/-- The tags with their names. -/
def names : List (ColumnTag × String) :=
  [(decimal, "Decimal"), (newDecimal, "NewDecimal"), (bit, "Bit"), (byte, "Byte"),
    (int16, "Int16"), (int24, "Int24"), (int32, "Int32"), (int64, "Int64"), (float, "Float"),
    (double, "Double"), (timestamp, "Timestamp"), (date, "Date"), (time, "Time"),
    (dateTime, "DateTime"), (year, "Year"), (newDate, "Newdate"), (varString, "VarString"),
    (blob, "Blob"), (tinyBlob, "TinyBlob"), (mediumBlob, "MediumBlob"), (longBlob, "LongBlob"),
    (json, "Json"), (enum, "Enum"), (set, "Set"), (geometry, "Geometry"), (uByte, "UByte"),
    (uInt16, "UInt16"), (uInt24, "UInt24"), (uInt32, "UInt32"), (uInt64, "UInt64"),
    (string, "String"), (varChar, "VarChar"), (binary, "Binary"), (varBinary, "VarBinary"),
    (tinyText, "TinyText"), (mediumText, "MediumText"), (longText, "LongText"), (text, "Text"),
    (guid, "Guid")]

/-- The name of a tag. -/
def name (tag : ColumnTag) : String :=
  (names.lookup tag).getD ""

/-- The tag with a name. -/
def ofName? (name : String) : Option ColumnTag :=
  (names.find? fun entry => entry.2 == name).map Prod.fst

end ColumnTag

/-! ### Conversion by a tag -/

/-- The text that a value has in a column of texts. -/
def Conversion.plainText : Value → Except ConversionError String
  | .text (some content) => .ok content
  | .blob content => textOfValue (.blob content)
  | .boolean (some content) => .ok (Value.booleanText content)
  | .integer _ (some content) => .ok content.text
  | .floating _ (some content) => .ok (content.text .plain)
  | .decimal (some content) => .ok content.text
  | .date (some content) => .ok content.text
  | .time (some content) => .ok content.text
  | .timestamp (some content) => .ok content.text
  | .zoned (some content) => .ok content.text
  | .uuid (some content) => .ok content.text
  | value => .error (.notText value)

/-- The first moment of a year. -/
def Conversion.startOfYear (year : Int) : Except ConversionError DateTime :=
  ((Date.ofParts year 1 1).map Date.midnight).mapError .calendar

/-- The date-time that a value has in a column of years: its own when it has one, otherwise the
start of the year that it is the number of. -/
def Conversion.yearOfValue (value : Value) : Except ConversionError DateTime :=
  match value with
  | .date _ | .timestamp _ | .zoned _ => timestampOfValue value
  | _ => do startOfYear (← integerOfValue .int32 value).value

/-- The content of a type that a value denotes, as a value. -/
def Conversion.through (type : ScalarType) (value : Value) : Except ConversionError Value :=
  (type.ofValue value).map type.toValue

/-- Converts a value that is not null to a family. -/
def TagFamily.convert (value : Value) : TagFamily → Except ConversionError Value
  | decimal => Conversion.through .decimal value
  | integer kind => Conversion.through (.integer kind) value
  | floating precision => Conversion.through (.floating precision) value
  | time => Conversion.through .time value
  | timestamp => Conversion.through .timestamp value
  | year => (Conversion.yearOfValue value).map fun content => .timestamp (some content)
  | blob => Conversion.through .fixedBytes value
  | text => (Conversion.plainText value).map fun content => .text (some content)
  | uuid => Conversion.through .uuid value

/-- Converts a value by a tag. -/
def ColumnTag.convert (tag : ColumnTag) (value : Value) : Except ConversionError Value :=
  if value.isNull then .ok value else tag.family.convert value

end SqlRecords
