/-
This file converts between the values of cells and the contents of record fields.

A field has a scalar type, and may be optional. From a field to a cell there is always exactly
one value. From a cell to a field a value is accepted when it has the field's type or a
neighbouring one: numbers of another kind after a range check, date-times for dates and times
and the other way round, and a text when it reads as a content of the field. Nothing is wrapped
or cut: what does not fit is an error that says what was refused and why.

Dates and times of zoned values are those of universal time. An instant whose universal date
does not exist has none, and asking for it is an error of its own.
-/

import SqlRecords.Calendar.Reader
import SqlRecords.Number.Decimal.Floating
import SqlRecords.Number.Decimal.Reader
import SqlRecords.Text.Excerpt
import SqlRecords.Text.Utf8
import SqlRecords.Value

namespace SqlRecords

/-! ### The types of fields -/

/-- The types of the contents of a field that is not optional. Bytes come in two types that
differ only in their names. -/
inductive ScalarType where
  | boolean
  | integer (kind : IntegerKind)
  | floating (precision : Precision)
  | decimal
  | text
  | character
  | fixedBytes
  | bytes
  | date
  | time
  | timestamp
  | zoned
  | uuid
deriving DecidableEq, Repr

namespace ScalarType

/-- The contents of a field of a type. -/
abbrev Content : ScalarType → Type
  | boolean => Bool
  | integer kind => Integer kind
  | floating precision => Floating precision
  | decimal => Decimal
  | text => String
  | character => Char
  | fixedBytes => List UInt8
  | bytes => List UInt8
  | date => Date
  | time => Time
  | timestamp => DateTime
  | zoned => ZonedDateTime
  | uuid => Uuid

/-- The name of a type in messages. -/
def name : ScalarType → String
  | boolean => "bool"
  | integer kind => kind.name
  | floating precision => precision.name
  | decimal => "rust_decimal::decimal::Decimal"
  | text => "alloc::string::String"
  | character => "char"
  | fixedBytes => "alloc::boxed::Box<[u8]>"
  | bytes => "alloc::vec::Vec<u8>"
  | date => "time::date::Date"
  | time => "time::time::Time"
  | timestamp => "time::plain_date_time::PlainDateTime"
  | zoned => "time::offset_date_time::OffsetDateTime"
  | uuid => "uuid::Uuid"

/-- The null of a type. -/
def emptyValue : ScalarType → Value
  | boolean => .boolean none
  | integer kind => .integer kind none
  | floating precision => .floating precision none
  | decimal => .decimal none
  | text => .text none
  | character => .text none
  | fixedBytes => .blob none
  | bytes => .blob none
  | date => .date none
  | time => .time none
  | timestamp => .timestamp none
  | zoned => .zoned none
  | uuid => .uuid none

/-- The value of a content. -/
def toValue : (type : ScalarType) → type.Content → Value
  | boolean, content => .boolean (some content)
  | integer kind, content => .integer kind (some content)
  | floating precision, content => .floating precision (some content)
  | decimal, content => .decimal (some content)
  | text, content => .text (some content)
  | character, content => .text (some (String.singleton content))
  | fixedBytes, content => .blob (some content)
  | bytes, content => .blob (some content)
  | date, content => .date (some content)
  | time, content => .time (some content)
  | timestamp, content => .timestamp (some content)
  | zoned, content => .zoned (some content)
  | uuid, content => .uuid (some content)

end ScalarType

/-! ### Errors -/

/-- Why a value or a text has no counterpart of the wanted type. -/
inductive ConversionError where
  /-- the universal date of an instant does not exist -/
  | utcOutOfRange
  | notConvertible (value : Value) (target : ScalarType)
  | notText (value : Value)
  | outOfRange (number : Int) (kind : IntegerKind)
  | notInteger (text : String) (kind : IntegerKind) (reason : Integer.TextError)
  | notFloating (text : String) (precision : Precision) (reason : Floating.TextError)
  | notDecimal (text : String) (reason : Decimal.TextError)
  | notUuid (text : String) (reason : Uuid.TextError)
  | notCharacter (text : String)
  | notReadable (text : String) (target : ScalarType)
  | notUtf8 (reason : Text.Utf8Error)
  | nullRefused (target : ScalarType)
  | calendar (part : CalendarPart)
deriving DecidableEq

/-- The beginning of the message about a text that cannot be read. -/
def cannotParse (text target : String) : String :=
  "Cannot parse `" ++ Text.excerpt text ++ "` as " ++ target

/-- The wording of the reason. -/
def ConversionError.message : ConversionError → String
  | utcOutOfRange => "The date of the instant in universal time does not exist"
  | notConvertible value target => "Cannot convert " ++ value.describe ++ " to " ++ target.name
  | notText value => "Cannot convert " ++ value.describe ++ " to text"
  | outOfRange number kind =>
    "Value " ++ String.ofList (Integer.intText number) ++ " is out of range for " ++ kind.name
  | notInteger text kind reason => cannotParse text kind.name ++ ": " ++ reason.message
  | notFloating text precision reason => cannotParse text precision.name ++ ": " ++ reason.message
  | notDecimal text reason => cannotParse text "Decimal" ++ ": " ++ reason.message
  | notUuid text reason => cannotParse text "Uuid" ++ ": " ++ reason.message
  | notCharacter text => cannotParse text "char, expected exactly one character"
  | notReadable text target => cannotParse text target.name
  | notUtf8 reason => "Blob is not a valid UTF-8 string: " ++ reason.message
  | nullRefused target => "NULL cannot be assigned to a non optional " ++ target.name
  | calendar part => part.message

namespace Conversion

/-! ### Reading a text -/

/-- The characters of a text without the white space around them. -/
def trimmed (text : String) : List Char :=
  Text.strip Text.isBlank text.toList

/-- Reads a truth value: its name in any letter case, or a digit. -/
def readBoolean (text : String) : Except ConversionError Bool :=
  let characters := trimmed text
  let name := characters.map Char.toLower
  if name = "true".toList ∨ characters = ['1'] then .ok true
  else if name = "false".toList ∨ characters = ['0'] then .ok false
  else .error (.notReadable (String.ofList characters) .boolean)

/-- Reads a text that is a single character. -/
def readCharacter (text : String) : Except ConversionError Char :=
  match text.toList with
  | [character] => .ok character
  | _ => .error (.notCharacter text)

/-- A result of reading a date or time, or the error that names the type. -/
def orUnreadable {Result : Type} (text : String) (target : ScalarType) :
    Option Result → Except ConversionError Result
  | some result => .ok result
  | none => .error (.notReadable text target)

end Conversion

/-- Reads the text of a content. Bytes have no text. A text that is neither a date nor a
date-time is refused as a date, whichever of the two was asked for. -/
def ScalarType.parse : (type : ScalarType) → String → Except ConversionError type.Content
  | boolean, given => Conversion.readBoolean given
  | integer kind, given =>
    (Integer.ofText kind (Conversion.trimmed given)).mapError (.notInteger given kind)
  | floating precision, given =>
    (Floating.ofText precision (Conversion.trimmed given)).mapError (.notFloating given precision)
  | decimal, given => (Decimal.ofText (Conversion.trimmed given)).mapError (.notDecimal given)
  | text, given => .ok given
  | character, given => Conversion.readCharacter given
  | fixedBytes, given => .error (.notReadable given .fixedBytes)
  | bytes, given => .error (.notReadable given .bytes)
  | date, given => Conversion.orUnreadable given .date (Calendar.readDate given.toList)
  | time, given => Conversion.orUnreadable given .time (Calendar.readTime given.toList)
  | timestamp, given => Conversion.orUnreadable given .date (Calendar.readDateTime given.toList)
  | zoned, given => Conversion.orUnreadable given .date (Calendar.readZoned given.toList)
  | uuid, given => (Uuid.ofText (Conversion.trimmed given)).mapError (.notUuid given)

namespace Conversion

/-! ### Converting a value -/

/-- The integer of a kind with the given value. -/
def integerOf (kind : IntegerKind) (number : Int) : Except ConversionError (Integer kind) :=
  match Integer.ofInt? kind number with
  | some integer => .ok integer
  | none => .error (.outOfRange number kind)

/-- The date-time of an instant in universal time. -/
def utcOf (moment : ZonedDateTime) : Except ConversionError DateTime :=
  match moment.utc? with
  | some dateTime => .ok dateTime
  | none => .error .utcOutOfRange

/-- The result of a conversion that may not exist, or the error that names the value and the
type. -/
def orRefused {Result : Type} (value : Value) (target : ScalarType) :
    Option Result → Except ConversionError Result
  | some result => .ok result
  | none => .error (.notConvertible value target)

/-- The integer of a kind that a value denotes. -/
def integerOfValue (kind : IntegerKind) (value : Value) :
    Except ConversionError (Integer kind) :=
  match value with
  | .integer _ (some number) => integerOf kind number.value
  | .boolean (some content) => integerOf kind (if content then 1 else 0)
  | .decimal (some number) =>
    if number.isWhole then integerOf kind number.wholePart
    else .error (.notConvertible value (.integer kind))
  | .text (some given) => ScalarType.parse (.integer kind) given
  | _ => .error (.notConvertible value (.integer kind))

/-- The floating point number of a precision that a value denotes. -/
def floatingOfValue (precision : Precision) (value : Value) :
    Except ConversionError (Floating precision) :=
  match value with
  | .floating _ (some number) => .ok (number.convert precision)
  | .integer _ (some number) => .ok (.ofInt precision number.value)
  | .decimal (some number) => .ok (number.toFloating precision)
  | .text (some given) => ScalarType.parse (.floating precision) given
  | _ => .error (.notConvertible value (.floating precision))

/-- The truth value that a value denotes: an integer is true unless it is zero. -/
def booleanOfValue (value : Value) : Except ConversionError Bool :=
  match value with
  | .boolean (some content) => .ok content
  | .integer _ (some number) => .ok (number.value != 0)
  | .text (some given) => ScalarType.parse .boolean given
  | _ => .error (.notConvertible value .boolean)

/-- The decimal number that a value denotes. -/
def decimalOfValue (value : Value) : Except ConversionError Decimal :=
  match value with
  | .decimal (some number) => .ok number
  | .integer _ (some number) => .ok (.ofInteger number)
  | .floating _ (some number) => orRefused value .decimal (Decimal.ofFloating number)
  | .text (some given) => ScalarType.parse .decimal given
  | _ => .error (.notConvertible value .decimal)

/-- The text that a value holds; bytes are text when they decode. -/
def textOfValue (value : Value) : Except ConversionError String :=
  match value with
  | .text (some content) => .ok content
  | .blob (some content) => (Text.decodeUtf8 content).mapError .notUtf8
  | _ => .error (.notConvertible value .text)

/-- The single character that a value holds. -/
def characterOfValue (value : Value) : Except ConversionError Char :=
  match value with
  | .text (some given) => ScalarType.parse .character given
  | _ => .error (.notConvertible value .character)

/-- The bytes that a value holds; a text holds its encoding. -/
def bytesOfValue (value : Value) : Except ConversionError (List UInt8) :=
  match value with
  | .blob (some content) => .ok content
  | .text (some content) => .ok (Text.encodeUtf8 content)
  | _ => .error (.notConvertible value .fixedBytes)

/-- The date of a value. -/
def dateOfValue (value : Value) : Except ConversionError Date :=
  match value with
  | .date (some content) => .ok content
  | .timestamp (some content) => .ok content.date
  | .zoned (some content) => (utcOf content).map DateTime.date
  | .text (some given) => ScalarType.parse .date given
  | _ => .error (.notConvertible value .date)

/-- The time of day of a value. -/
def timeOfValue (value : Value) : Except ConversionError Time :=
  match value with
  | .time (some content) => .ok content
  | .timestamp (some content) => .ok content.time
  | .zoned (some content) => (utcOf content).map DateTime.time
  | .text (some given) => ScalarType.parse .time given
  | _ => .error (.notConvertible value .time)

/-- The date-time of a value. -/
def timestampOfValue (value : Value) : Except ConversionError DateTime :=
  match value with
  | .timestamp (some content) => .ok content
  | .date (some content) => .ok content.midnight
  | .zoned (some content) => utcOf content
  | .text (some given) => ScalarType.parse .timestamp given
  | _ => .error (.notConvertible value .timestamp)

/-- The instant of a value; a date-time without an offset is one of universal time. -/
def zonedOfValue (value : Value) : Except ConversionError ZonedDateTime :=
  match value with
  | .zoned (some content) => .ok content
  | .timestamp (some content) => .ok (.universal content)
  | .date (some content) => .ok (.universal content.midnight)
  | .text (some given) => ScalarType.parse .zoned given
  | _ => .error (.notConvertible value .zoned)

/-- The identifier of a value. -/
def uuidOfValue (value : Value) : Except ConversionError Uuid :=
  match value with
  | .uuid (some content) => .ok content
  | .blob (some content) => orRefused value .uuid (Uuid.ofBytes? content)
  | .text (some given) => ScalarType.parse .uuid given
  | _ => .error (.notConvertible value .uuid)

end Conversion

/-- The content of a type that a value denotes. -/
def ScalarType.ofValue : (type : ScalarType) → Value → Except ConversionError type.Content
  | boolean => Conversion.booleanOfValue
  | integer kind => Conversion.integerOfValue kind
  | floating precision => Conversion.floatingOfValue precision
  | decimal => Conversion.decimalOfValue
  | text => Conversion.textOfValue
  | character => Conversion.characterOfValue
  | fixedBytes => Conversion.bytesOfValue
  | bytes => Conversion.bytesOfValue
  | date => Conversion.dateOfValue
  | time => Conversion.timeOfValue
  | timestamp => Conversion.timestampOfValue
  | zoned => Conversion.zonedOfValue
  | uuid => Conversion.uuidOfValue

/-- The content that a field takes when its cell is null. Dates and times have none. -/
def ScalarType.ofNull : (type : ScalarType) → Except ConversionError type.Content
  | boolean => .ok false
  | integer kind => .ok (.zero kind)
  | floating precision => .ok (.zero precision false)
  | decimal => .ok .zero
  | text => .ok ""
  | character => .ok '\x00'
  | fixedBytes => .ok []
  | bytes => .ok []
  | date => .error (.nullRefused .date)
  | time => .error (.nullRefused .time)
  | timestamp => .error (.nullRefused .timestamp)
  | zoned => .error (.nullRefused .zoned)
  | uuid => .ok .nil


/-! ### Fields that may be optional -/

/-- The type of a field. -/
inductive FieldType where
  | required (type : ScalarType)
  | optional (type : ScalarType)
deriving DecidableEq, Repr

namespace FieldType

/-- The contents of a field. -/
abbrev Content : FieldType → Type
  | required type => type.Content
  | optional type => Option type.Content

/-- The null that stands for a missing content. -/
def emptyValue : FieldType → Value
  | required type => type.emptyValue
  | optional type => type.emptyValue

/-- The value of a content. -/
def toValue : (type : FieldType) → type.Content → Value
  | required type, content => type.toValue content
  | optional type, some content => type.toValue content
  | optional type, none => type.emptyValue

/-- Reads the text of a content. -/
def parse : (type : FieldType) → String → Except ConversionError type.Content
  | required type, given => type.parse given
  | optional type, given => (type.parse given).map some

/-- The content that a value denotes. -/
def ofValue : (type : FieldType) → Value → Except ConversionError type.Content
  | required type, value => type.ofValue value
  | optional type, value => if value.isNull then .ok none else (type.ofValue value).map some

/-- The content that a null gives. -/
def ofNull : (type : FieldType) → Except ConversionError type.Content
  | required type => type.ofNull
  | optional _ => .ok none

/-- The content that a field takes from a cell. -/
def ofCell (type : FieldType) (value : Value) : Except ConversionError type.Content :=
  if value.isNull then type.ofNull else type.ofValue value

end FieldType

end SqlRecords
