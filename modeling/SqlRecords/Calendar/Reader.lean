/-
This file reads dates, times and date-times from text.

A spelling is a row of parts and of marks between them. Reading a text in a spelling fills in
the parts from left to right and succeeds only when the whole text is used up; parts that a
spelling lacks are zero. Several spellings are tried in order. Before that, white space around
the text and then any quotes around what is left are taken off.

Universal time stamps have a spelling of their own, with an offset at the end, in which a leap
second is read as the last nanosecond before it.
-/

import SqlRecords.Calendar.DateTime
import SqlRecords.Text.Blank

namespace SqlRecords.Calendar

/-! ### Parts -/

/-- The parts that have been read of a date-time. -/
structure Fields where
  year : Int
  month : Nat
  day : Nat
  hour : Nat
  minute : Nat
  second : Nat
  nanosecond : Nat
deriving DecidableEq, Repr

/-- No part read yet. -/
def Fields.blank : Fields :=
  ⟨0, 0, 0, 0, 0, 0, 0⟩

/-- The date that the parts give, if there is one. -/
def Fields.date? (fields : Fields) : Option Date :=
  Date.ofParts? fields.year fields.month fields.day

/-- The time that the parts give, if there is one. -/
def Fields.time? (fields : Fields) : Option Time :=
  Time.ofParts? fields.hour fields.minute fields.second fields.nanosecond

/-- The date-time that the parts give, if there is one. -/
def Fields.dateTime? (fields : Fields) : Option DateTime := do
  let date ← fields.date?
  let time ← fields.time?
  some ⟨date, time⟩

/-- Reads exactly the given number of digits. -/
def readNumber (count : Nat) (characters : List Char) : Option (Nat × List Char) :=
  let digits := characters.take count
  if digits.length = count ∧ digits.all Char.isDigit then
    some (Nat.ofDigitChars 10 digits 0, characters.drop count)
  else
    none

/-- Reads a year: an optional sign and exactly four digits. -/
def readYear : List Char → Option (Int × List Char)
  | '-' :: rest => (readNumber 4 rest).map fun (number, rest) => (-(number : Int), rest)
  | '+' :: rest => (readNumber 4 rest).map fun (number, rest) => ((number : Int), rest)
  | rest => (readNumber 4 rest).map fun (number, rest) => ((number : Int), rest)

/-- The nanoseconds that the digits behind a second's point stand for; digits after the ninth
do not count. -/
def nanosecondsOf (digits : List Char) : Nat :=
  let counted := digits.take 9
  Nat.ofDigitChars 10 counted 0 * Nat.pow 10 (9 - counted.length)

/-- Reads a fraction of a second: between one digit and the given number of them, as many as
there are. -/
def readFraction (most : Nat) (characters : List Char) : Option (Nat × List Char) :=
  let digits := (characters.take most).takeWhile Char.isDigit
  if digits.isEmpty then
    none
  else
    some (nanosecondsOf digits, characters.drop digits.length)

/-! ### Spellings -/

/-- An element of a spelling. -/
inductive Element where
  | year
  | month
  | day
  | hour
  | minute
  | second
  | fraction
  | mark (character : Char)
deriving DecidableEq, Repr

/-- Reads one element at the front of a text into the parts. -/
def Element.read (fields : Fields) (characters : List Char) :
    Element → Option (Fields × List Char)
  | year => do
    let (number, rest) ← readYear characters
    some ({ fields with year := number }, rest)
  | month => do
    let (number, rest) ← readNumber 2 characters
    some ({ fields with month := number }, rest)
  | day => do
    let (number, rest) ← readNumber 2 characters
    some ({ fields with day := number }, rest)
  | hour => do
    let (number, rest) ← readNumber 2 characters
    some ({ fields with hour := number }, rest)
  | minute => do
    let (number, rest) ← readNumber 2 characters
    some ({ fields with minute := number }, rest)
  | second => do
    let (number, rest) ← readNumber 2 characters
    some ({ fields with second := number }, rest)
  | fraction => do
    let (number, rest) ← readFraction 32 characters
    some ({ fields with nanosecond := number }, rest)
  | mark character =>
    match characters with
    | [] => none
    | first :: rest => if first = character then some (fields, rest) else none

/-- Reads a whole text in a spelling. -/
def readSpelling : List Element → Fields → List Char → Option Fields
  | [], fields, [] => some fields
  | [], _, _ :: _ => none
  | element :: elements, fields, characters => do
    let (fields, rest) ← element.read fields characters
    readSpelling elements fields rest

/-- The spelling of a date. -/
def dateSpelling : List Element :=
  [.year, .mark '-', .month, .mark '-', .day]

/-- The spellings of a time, from the longest to the shortest. -/
def timeSpellings : List (List Element) :=
  [[.hour, .mark ':', .minute, .mark ':', .second, .mark '.', .fraction],
    [.hour, .mark ':', .minute, .mark ':', .second],
    [.hour, .mark ':', .minute]]

/-- The spellings of a date-time: those of a time after a date, with a blank or a letter between
them. -/
def dateTimeSpellings : List (List Element) :=
  timeSpellings.flatMap fun time =>
    [dateSpelling ++ [.mark ' '] ++ time, dateSpelling ++ [.mark 'T'] ++ time]

/-- Whether a character is a quote that may stand around a date or a time. -/
def isQuote (character : Char) : Bool :=
  character == '\'' || character == '"'

/-- A text without the white space around it and without the quotes around the rest. -/
def unwrap (characters : List Char) : List Char :=
  Text.strip isQuote (Text.strip Text.isBlank characters)

/-- Reads a text in the first spelling that gives a result. -/
def readFirst {Result : Type} (spellings : List (List Element))
    (build : Fields → Option Result) (characters : List Char) : Option Result :=
  spellings.findSome? fun spelling =>
    (readSpelling spelling .blank (unwrap characters)).bind build

/-- Reads a date that stands alone. -/
def readBareDate (characters : List Char) : Option Date :=
  readFirst [dateSpelling] Fields.date? characters

/-- Reads a time of day. -/
def readTime (characters : List Char) : Option Time :=
  readFirst timeSpellings Fields.time? characters

/-- Reads a date-time; a date that stands alone is its first moment. -/
def readDateTime (characters : List Char) : Option DateTime :=
  readFirst dateTimeSpellings Fields.dateTime? characters <|>
    (readBareDate characters).map Date.midnight

/-- Reads a date; that of a date-time will do. -/
def readDate (characters : List Char) : Option Date :=
  readBareDate characters <|> (readDateTime characters).map DateTime.date

/-! ### Universal time stamps -/

/-- Reads the mark between the date and the time of a time stamp, which may be any single
plain character. -/
def readSeparator : List Char → Option (List Char)
  | [] => none
  | character :: rest => if character.toNat < 128 then some rest else none

/-- Reads the fraction of a second of a time stamp, which may be missing. -/
def readStampFraction : List Char → Option (Nat × List Char)
  | '.' :: rest => readFraction rest.length rest
  | rest => some (0, rest)

/-- Reads the offset at the end of a time stamp, in seconds. -/
def readOffset : List Char → Option (Int × List Char)
  | 'Z' :: rest | 'z' :: rest => some (0, rest)
  | sign :: rest => do
    guard (sign = '+' ∨ sign = '-')
    let (hour, rest) ← readNumber 2 rest
    let (_, rest) ← (Element.mark ':').read .blank rest
    let (minute, rest) ← readNumber 2 rest
    guard (hour < 24 ∧ minute < 60)
    let seconds : Int := (hour * 3600 + minute * 60 : Nat)
    some (if sign = '-' then -seconds else seconds, rest)
  | [] => none

/-- Whether an instant lies in the last second of a month of universal time, where a leap
second may follow. -/
def precedesLeapSecond (zoned : ZonedDateTime) : Bool :=
  match zoned.utc? with
  | some moment =>
    moment.date.isMonthEnd && moment.time.hour == 23 && moment.time.minute == 59 &&
      moment.time.second == 59
  | none => false

/-- Reads a time stamp: date, time and offset, without blanks and without quotes. -/
def readStamp (characters : List Char) : Option ZonedDateTime := do
  let (year, rest) ← readNumber 4 characters
  let (_, rest) ← (Element.mark '-').read .blank rest
  let (month, rest) ← readNumber 2 rest
  let (_, rest) ← (Element.mark '-').read .blank rest
  let (day, rest) ← readNumber 2 rest
  let rest ← readSeparator rest
  let (hour, rest) ← readNumber 2 rest
  let (_, rest) ← (Element.mark ':').read .blank rest
  let (minute, rest) ← readNumber 2 rest
  let (_, rest) ← (Element.mark ':').read .blank rest
  let (second, rest) ← readNumber 2 rest
  let (nanosecond, rest) ← readStampFraction rest
  let (offset, rest) ← readOffset rest
  guard rest.isEmpty
  let isLeap := second = 60
  let clock ← Fields.dateTime?
    { year := year, month := month, day := day, hour := hour, minute := minute
      second := if isLeap then 59 else second
      nanosecond := if isLeap then 999999999 else nanosecond }
  let zoned ← ZonedDateTime.ofClock? clock offset
  if isLeap ∧ !precedesLeapSecond zoned then none else some zoned

/-- Reads a zoned date-time: a time stamp, or a date-time taken as universal time. -/
def readZoned (characters : List Char) : Option ZonedDateTime :=
  readStamp (Text.strip Text.isBlank characters) <|>
    (readDateTime characters).map ZonedDateTime.universal

end SqlRecords.Calendar
