/-
This file follows dates and times of a MySQL server from a cell into a record. A server sends
them in binary form, which says what it is, or as text, which its column has to tell. The two
forms of one content give the same value, as far as the text is taken for a text: the bytes of
a column without a character set stay bytes although the column is one of dates or times, and no
date or time is read from bytes.
-/

import SqlRecords.Proofs.Calendar.Spelling
import SqlRecords.Proofs.Mysql.CharacterCell

namespace SqlRecords

/-! ### Conversion by the tags of dates and times -/

variable {tag : ColumnTag} {characters : List Char}

theorem Time.ofMicroseconds_parts (time : Time) (exact : 1000 ∣ time.nanosecond) :
    Time.ofMicroseconds time.hour time.minute time.second (time.nanosecond / 1000) = .ok time := by
  have fits : time.nanosecond / 1000 < 1000000 := Nat.div_lt_of_lt_mul time.nanosecond_lt
  unfold Time.ofMicroseconds
  rw [dif_pos time.hour_lt, dif_pos time.minute_lt, dif_pos time.second_lt, dif_pos fits]
  obtain ⟨hour, minute, second, nanosecond, _, _, _, _⟩ := time
  refine congrArg Except.ok ?_
  rw [Time.mk.injEq]
  exact ⟨rfl, rfl, rfl, Nat.div_mul_cancel exact⟩

theorem ColumnTag.convert_momentText {moment : DateTime} (family : tag.family = .timestamp)
    (reads : Calendar.readDateTime characters = some moment) :
    tag.convert (.text (some (String.ofList characters))) = .ok (.timestamp (some moment)) := by
  have parses : ScalarType.parse .timestamp (String.ofList characters) = .ok moment := by
    rw [ScalarType.parse, String.toList_ofList, reads]
    rfl
  show tag.family.convert _ = _
  rw [family, TagFamily.convert, Conversion.through, ScalarType.ofValue,
    Conversion.timestampOfValue, parses]
  rfl

theorem ColumnTag.convert_timeText {time : Time} (family : tag.family = .time)
    (reads : Calendar.readTime characters = some time) :
    tag.convert (.text (some (String.ofList characters))) = .ok (.time (some time)) := by
  have parses : ScalarType.parse .time (String.ofList characters) = .ok time := by
    rw [ScalarType.parse, String.toList_ofList, reads]
    rfl
  show tag.family.convert _ = _
  rw [family, TagFamily.convert, Conversion.through, ScalarType.ofValue, Conversion.timeOfValue,
    parses]
  rfl

namespace Mysql

open Calendar (clockText)

variable {column : ColumnInfo} {binary text : Cell} {value : Value}

/-! ### Columns of dates and times -/

/-- The tag of a column of dates or times. -/
def ColumnType.temporalTag? : ColumnType → Option ColumnTag
  | date => some .date
  | time => some .time
  | dateTime => some .dateTime
  | timestamp => some .timestamp
  | _ => none

/-- The cell that holds a text. -/
def textCell (characters : List Char) : Cell :=
  .bytes (Text.encodeUtf8 (String.ofList characters))

/-- The binary cell of a date-time, up to the microsecond. -/
def momentCell (moment : DateTime) : Cell :=
  .date moment.date.year.toNat moment.date.month moment.date.day moment.time.hour
    moment.time.minute moment.time.second (moment.time.nanosecond / 1000)

/-- Whether a number of digits, of the six that a server has at most, says a time exactly. -/
structure Spells (digits : Nat) (time : Time) : Prop where
  le : digits ≤ 6
  exact : 10 ^ (9 - digits) ∣ time.nanosecond

/-- The cells of one content, in binary form and as a text, and the value of it in a record whose
column has that tag. -/
inductive SameContent : ColumnTag → Cell → Cell → Value → Prop
  | date (date : Date) (natural : 0 ≤ date.year) :
    SameContent .date (momentCell date.midnight) (textCell date.characters)
      (.timestamp (some date.midnight))
  | moment (tag : ColumnTag) (isMoment : tag = .dateTime ∨ tag = .timestamp) (moment : DateTime)
    (natural : 0 ≤ moment.date.year) (digits : Nat) (spells : Spells digits moment.time) :
    SameContent tag (momentCell moment)
      (textCell (moment.date.characters ++ [' '] ++ clockText moment.time digits))
      (.timestamp (some moment))
  | time (time : Time) (digits : Nat) (spells : Spells digits time) :
    SameContent .time (.time false 0 time.hour time.minute time.second (time.nanosecond / 1000))
      (textCell (clockText time digits)) (.time (some time))

/-- Whether a cell of a column decodes, and the tag of the column makes a value of it. -/
def ReadsAs (column : ColumnInfo) (tag : ColumnTag) (cell : Cell) (value : Value) : Prop :=
  ∃ decoded, decodeCell column cell = .ok decoded ∧ tag.convert decoded = .ok value

/-! ### Binary cells -/

theorem Spells.microseconds {digits : Nat} {time : Time} (spells : Spells digits time) :
    1000 ∣ time.nanosecond :=
  Nat.dvd_trans (Nat.pow_dvd_pow 10 (by have := spells.le; omega : 3 ≤ 9 - digits)) spells.exact

theorem decodeCell_momentCell (column : ColumnInfo) {moment : DateTime}
    (natural : 0 ≤ moment.date.year) (exact : 1000 ∣ moment.time.nanosecond) :
    decodeCell column (momentCell moment) = .ok (.timestamp (some moment)) := by
  show ((Date.ofParts (moment.date.year.toNat : Int) _ _).mapError _).bind _ = _
  rw [Int.toNat_of_nonneg natural, Date.ofParts_parts]
  show ((Time.ofMicroseconds _ _ _ _).mapError _).bind _ = _
  rw [Time.ofMicroseconds_parts _ exact]
  rfl

theorem decodeCell_timeCell (column : ColumnInfo) {time : Time} (exact : 1000 ∣ time.nanosecond) :
    decodeCell column
        (.time false 0 time.hour time.minute time.second (time.nanosecond / 1000)) =
      .ok (.time (some time)) := by
  show ((Time.ofMicroseconds _ _ _ _).mapError _).bind _ = _
  rw [Time.ofMicroseconds_parts _ exact]
  rfl

/-- A binary cell is read as its content. -/
theorem readsAs_binary (column : ColumnInfo) (same : SameContent tag binary text value) :
    ReadsAs column tag binary value := by
  cases same with
  | date date natural =>
    exact ⟨_, decodeCell_momentCell column natural (Nat.dvd_zero 1000), rfl⟩
  | moment tag isMoment moment natural digits spells =>
    refine ⟨_, decodeCell_momentCell column natural spells.microseconds, ?_⟩
    rcases isMoment with rfl | rfl <;> rfl
  | time time digits spells => exact ⟨_, decodeCell_timeCell column spells.microseconds, rfl⟩

/-! ### Texts -/

theorem meaning_of_temporalTag? {type : ColumnType} (temporal : type.temporalTag? = some tag) :
    type.meaning = .characters := by
  cases type with
  | date | time | dateTime | timestamp => rfl
  | _ => cases temporal

theorem decodeCell_textCell (meaning : column.type.meaning = .characters)
    (textual : column.charset ≠ binaryCharset) (characters : List Char) :
    decodeCell column (textCell characters) = .ok (.text (some (String.ofList characters))) :=
  decodeCell_text meaning textual (String.ofList characters)

theorem decodeBytes_of_binaryCharset (meaning : column.type.meaning = .characters)
    (binary : column.charset = binaryCharset) (content : List UInt8) :
    decodeBytes column content = .ok (.blob (some content)) :=
  decodeCell_noText meaning fun isText => isText.1 binary

/-- The text of a content is read as that content in a column with a character set. -/
theorem readsAs_text (temporal : column.type.temporalTag? = some tag)
    (textual : column.charset ≠ binaryCharset) (same : SameContent tag binary text value) :
    ReadsAs column tag text value := by
  have decodes := decodeCell_textCell (meaning_of_temporalTag? temporal) textual
  cases same with
  | date date natural =>
    exact ⟨_, decodes _, ColumnTag.convert_momentText rfl (Calendar.readDateTime_date date)⟩
  | moment tag isMoment moment natural digits spells =>
    have family : tag.family = .timestamp := by
      rcases isMoment with rfl | rfl <;> rfl
    have reads := Calendar.readDateTime_clockText (Nat.le_trans spells.le (by decide)) spells.exact
    exact ⟨_, decodes _, ColumnTag.convert_momentText family reads⟩
  | time time digits spells =>
    have reads := Calendar.readTime_clockText (Nat.le_trans spells.le (by decide)) spells.exact
    exact ⟨_, decodes _, ColumnTag.convert_timeText rfl reads⟩

/-- Bytes are no value of a column of dates or times. -/
theorem convert_blob_ne_ok (temporal : column.type.temporalTag? = some tag)
    (content : List UInt8) (value : Value) : tag.convert (.blob (some content)) ≠ .ok value := by
  cases type : column.type with
  | date | time | dateTime | timestamp =>
    rw [type] at temporal
    cases temporal
    exact fun converts => nomatch converts
  | _ =>
    rw [type] at temporal
    cases temporal

/-- The text of a content is read as nothing in a column without a character set. -/
theorem not_readsAs_text (temporal : column.type.temporalTag? = some tag)
    (isBinary : column.charset = binaryCharset) (same : SameContent tag binary text value)
    (other : Value) : ¬ReadsAs column tag text other := by
  have decodes := decodeBytes_of_binaryCharset (meaning_of_temporalTag? temporal) isBinary
  rintro ⟨decoded, decodesText, converts⟩
  obtain ⟨content, rfl⟩ : ∃ content, text = .bytes content := by
    cases same <;> exact ⟨_, rfl⟩
  cases (decodes content).symm.trans decodesText
  exact convert_blob_ne_ok temporal content other converts

/-! ### Both forms -/

/-- The binary cell of a date or time is read as that content. Its text is read as the same one
if the column has a character set, and as nothing at all if it has none. -/
theorem readsAs_binary_text (temporal : column.type.temporalTag? = some tag)
    (same : SameContent tag binary text value) :
    ReadsAs column tag binary value ∧
      (column.charset ≠ binaryCharset → ReadsAs column tag text value) ∧
      (column.charset = binaryCharset → ∀ other, ¬ReadsAs column tag text other) :=
  ⟨readsAs_binary column same, fun textual => readsAs_text temporal textual same,
    fun isBinary => not_readsAs_text temporal isBinary same⟩

/-- A column of date-times without a character set. -/
def visitColumn : ColumnInfo :=
  ⟨"visit", .dateTime, false, binaryCharset⟩

/-- A column of times with a character set. -/
def alarmColumn : ColumnInfo :=
  ⟨"alarm", .time, false, 45⟩

/-- Five seconds after 03:04 on a leap day. -/
def visit : DateTime where
  date := ⟨2024, 2, 29, by decide, by decide, by decide, by decide, by decide, by decide⟩
  time := .ofSecondOfDay 11045 0

/-- Half a second after half past seven. -/
def alarm : Time :=
  .ofSecondOfDay 27000 500000000

/-- A date-time without a character set is read from its binary cell only, and a time with one
is read from its text. -/
theorem readsAs_visit_alarm :
    (ReadsAs visitColumn .dateTime (.date 2024 2 29 3 4 5 0) (.timestamp (some visit)) ∧
      ∀ other, ¬ReadsAs visitColumn .dateTime (textCell "2024-02-29 03:04:05".toList) other) ∧
      ReadsAs alarmColumn .time (textCell "07:30:00.500000".toList) (.time (some alarm)) := by
  have visits : SameContent .dateTime (.date 2024 2 29 3 4 5 0)
      (textCell "2024-02-29 03:04:05".toList) (.timestamp (some visit)) :=
    .moment .dateTime (.inl rfl) visit (by decide) 0 ⟨by decide, by decide⟩
  have alarms : SameContent .time (.time false 0 7 30 0 500000)
      (textCell "07:30:00.500000".toList) (.time (some alarm)) :=
    .time alarm 6 ⟨by decide, by decide⟩
  have visitTag : visitColumn.type.temporalTag? = some .dateTime := rfl
  have alarmTag : alarmColumn.type.temporalTag? = some .time := rfl
  obtain ⟨visited, _, unread⟩ := readsAs_binary_text visitTag visits
  obtain ⟨_, read, _⟩ := readsAs_binary_text alarmTag alarms
  exact ⟨⟨visited, unread rfl⟩, read (by decide)⟩

end Mysql

end SqlRecords
