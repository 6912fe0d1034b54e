/-
This file writes values as SQL literals.

Two dialects are known. They differ in the backslash inside a string literal: the standard
dialect gives it no meaning, the other one reads it as an escape and so needs it doubled. In
both a quote inside a string literal is written twice.

Where a statement assigns a column or looks for a key, truth values are digits and points of
time are dates; elsewhere truth values are words and points of time have hours and minutes.
-/

import SqlRecords.Sql.Writer
import SqlRecords.Table

namespace SqlRecords

/-! ### Dialects and places -/

/-- The dialects of SQL. -/
inductive Dialect where
  | standard
  | mysql
deriving DecidableEq, Repr

/-- The clause of a statement that is being written. -/
inductive Fragment where
  | none
  | select
  | selectFrom
  | selectWhere
  | selectOrderBy
  | selectLimit
  | insertInto
  | insertIntoValues
  | update
  | updateSet
  | updateWhere
  | deleteFrom
  | deleteFromWhere
deriving DecidableEq, Repr

/-- Whether a fragment assigns columns or looks for a key. -/
def Fragment.isKeyAssignment : Fragment → Bool
  | updateSet | updateWhere | deleteFromWhere => true
  | _ => false

/-- Where something is written: the clause, and the table whose columns the fields of
expressions are kept in, if there is one. -/
structure Context where
  fragment : Fragment
  table : Option Table

/-! ### String literals -/

/-- What a string literal holds for one character. -/
def Dialect.escape : Dialect → Char → List Char
  | _, '\'' => ['\'', '\'']
  | mysql, '\\' => ['\\', '\\']
  | _, character => [character]

/-- A text as a string literal. -/
def Dialect.stringLiteral (dialect : Dialect) (text : String) : String :=
  String.ofList (['\''] ++ text.toList.flatMap dialect.escape ++ ['\''])

/-! ### Literals of dates and times -/

/-- The year in a literal: at least four characters, a minus among them. -/
def yearLiteral (year : Int) : List Char :=
  if year < 0 then '-' :: Text.zeroPadded 3 year.natAbs else Text.zeroPadded 4 year.natAbs

/-- The hour and the minute of a time. -/
def minuteLiteral (time : Time) : List Char :=
  Text.zeroPadded 2 time.hour ++ [':'] ++ Text.zeroPadded 2 time.minute

/-- A time of day as a literal. -/
def timeLiteral (time : Time) : String :=
  String.ofList (['\''] ++ minuteLiteral time ++ ['\''])

/-- A date-time as a literal: the date alone for a key, the date with hour and minute
otherwise. -/
def dateTimeLiteral (forKey : Bool) (dateTime : DateTime) : String :=
  String.ofList
    (['\''] ++ yearLiteral dateTime.date.year ++ ['-'] ++ Text.zeroPadded 2 dateTime.date.month ++
      ['-'] ++ Text.zeroPadded 2 dateTime.date.day ++
      (if forKey then [] else ' ' :: minuteLiteral dateTime.time) ++ ['\''])

/-! ### Literals of values -/

/-- A truth value as a literal. -/
def booleanLiteral (forKey content : Bool) : String :=
  match forKey, content with
  | true, true => "1"
  | true, false => "0"
  | false, true => "true"
  | false, false => "false"

/-- A value as a literal. Bytes have none, and neither has a floating point number that is not
finite. -/
def Dialect.literal (dialect : Dialect) (forKey : Bool) (value : Value) :
    Except StatementError String :=
  if value.isNull then
    .ok "NULL"
  else
    match value with
    | .boolean (some content) => .ok (booleanLiteral forKey content)
    | .integer _ (some number) => .ok number.text
    | .floating precision (some number) =>
      if number.isFinite then .ok (number.text (.literal precision))
      else .error (.unsupportedLiteral value)
    | .decimal (some number) => .ok number.text
    | .text (some content) => .ok (dialect.stringLiteral content)
    | .date (some date) => .ok (dateTimeLiteral forKey date.midnight)
    | .time (some time) => .ok (timeLiteral time)
    | .timestamp (some dateTime) => .ok (dateTimeLiteral forKey dateTime)
    | .zoned (some moment) =>
      match moment.utc? with
      | some dateTime => .ok (dateTimeLiteral forKey dateTime)
      | none => .error .utcOutOfRange
    | .uuid (some uuid) => .ok ("'" ++ uuid.text ++ "'")
    | _ => .error (.unsupportedLiteral value)

/-- Writes a value as a literal. -/
def Dialect.writeValue (dialect : Dialect) (context : Context) (value : Value) : Writer Unit := do
  TextWriter.write (← dialect.literal context.fragment.isKeyAssignment value)

end SqlRecords
