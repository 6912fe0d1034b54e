/-
This file says that the usual spellings of dates and times are read, and that each text has one
reading. A date-time may be printed as its date alone, or with a blank or a letter and its time
behind it, to the minute, to the second or to some digits of the fraction; quotes may be put around
the text and white space around these. Whatever is wanted, a date-time, a date or an instant, what
is read is the date-time cut to what was printed.

The spellings differ in their marks, so none shadows another one: each could be tried before the
others, and a date before a date-time or after it.
-/

import SqlRecords.Proofs.Calendar.Spelling
import SqlRecords.Proofs.Value.OwnType

namespace SqlRecords

open Calendar (Detail Fields Prints Wraps dateSpelling dateTimeSpellings readDate readDateTime
  readFirst readSpelling timeSpellings)

namespace ScalarType

/-- Where a date-time is read, the same text is read as a date and as an instant. -/
theorem parse_of_readDateTime {text : String} {said : DateTime}
    (read : readDateTime text.toList = some said) :
    timestamp.parse text = .ok said ∧ date.parse text = .ok said.date ∧
      zoned.parse text = .ok (.universal said) := by
  refine ⟨?_, ?_, ?_⟩
  · rw [parse, read]
    rfl
  · rw [parse, Calendar.readDate_eq, read]
    rfl
  · rw [parse, Calendar.readZoned_of_readDateTime read]
    rfl

theorem parse_of_readTime {text : String} {clock : Time}
    (read : Calendar.readTime text.toList = some clock) : time.parse text = .ok clock := by
  rw [parse, read]
  rfl

/-- Printed date-times and times are read as what their texts say, with any quotes and white space
around them. No text is in two spellings of a date or date-time or in two of a time, and the order
in which the spellings are tried does not matter. -/
theorem parse_printed :
    (∀ moment inner said, Prints moment inner said →
      ∀ text : String, Wraps inner text.toList →
        timestamp.parse text = .ok said ∧ date.parse text = .ok said.date ∧
          zoned.parse text = .ok (.universal said)) ∧
    (∀ (clock : Time) (detail : Detail) (text : String),
      Wraps (detail.text clock) text.toList → time.parse text = .ok (detail.cut clock)) ∧
    (∀ characters, ∀ spellings ∈ [dateSpelling :: dateTimeSpellings, timeSpellings],
      spellings.Pairwise fun first second =>
        ¬ ((readSpelling first .blank characters).isSome = true ∧
          (readSpelling second .blank characters).isSome = true)) ∧
    (∀ others, others.Perm dateTimeSpellings →
      readFirst others Fields.dateTime? = readFirst dateTimeSpellings Fields.dateTime?) ∧
    (∀ others, others.Perm timeSpellings →
      readFirst others Fields.time? = readFirst timeSpellings Fields.time?) ∧
    ∀ characters, readDate characters = (readDateTime characters).map DateTime.date := by
  refine ⟨fun moment inner said prints text wraps => ?_, fun clock detail text wraps => ?_,
    fun characters => ?_, fun others same => funext fun characters => ?_,
    fun others same => funext fun characters => ?_, fun characters => Calendar.readDate_eq⟩
  · exact parse_of_readDateTime (Calendar.readDateTime_of_prints prints wraps)
  · exact parse_of_readTime (Calendar.readTime_of_wraps wraps)
  · have distinct : ∀ spellings ∈ [dateSpelling :: dateTimeSpellings, timeSpellings],
        (spellings.map Calendar.markCounts).Nodup :=
      List.forall_mem_cons.mpr ⟨Calendar.nodup_markCounts_dateTime,
        List.forall_mem_singleton.mpr Calendar.nodup_markCounts_time⟩
    exact fun spellings member => Calendar.pairwise_not_read (distinct spellings member) characters
  · have distinct := (List.nodup_cons.mp Calendar.nodup_markCounts_dateTime).2
    exact Calendar.readFirst_eq_of_perm distinct same
  · exact Calendar.readFirst_eq_of_perm Calendar.nodup_markCounts_time same

/-- Shortly before the end of a day. -/
def lateClock : Time :=
  .ofSecondOfDay 86398 123456789

/-- A text with two digits of the fraction, in two kinds of quotes and white space. -/
theorem parse_printed_firstDate :
    date.parse " \"'0001-01-01T23:59:58.12'\"\n" = .ok firstDate ∧
      timestamp.parse " \"'0001-01-01T23:59:58.12'\"\n" =
        .ok ⟨firstDate, .ofSecondOfDay 86398 120000000⟩ ∧
      time.parse "'23:59'" = .ok (.ofSecondOfDay 86340 0) := by
  obtain ⟨moments, times, -⟩ := parse_printed
  have wraps : Wraps "0001-01-01T23:59:58.12".toList " \"'0001-01-01T23:59:58.12'\"\n".toList :=
    @Wraps.around _ [' '] ['"', '\''] ['\'', '"'] ['\n'] (List.all_eq_true.mp rfl)
      (List.all_eq_true.mp rfl) (List.all_eq_true.mp rfl) (List.all_eq_true.mp rfl)
  have clockWraps : Wraps "23:59".toList "'23:59'".toList :=
    @Wraps.around _ [] ['\''] ['\''] [] (List.all_eq_true.mp rfl) (List.all_eq_true.mp rfl)
      (List.all_eq_true.mp rfl) (List.all_eq_true.mp rfl)
  have prints : Prints ⟨firstDate, lateClock⟩ _ _ :=
    .dateTime 'T' (by decide) (.second 2 (by decide))
  obtain ⟨read, day, -⟩ := moments _ _ _ prints _ wraps
  exact ⟨day, read, times lateClock .minute _ clockWraps⟩

end ScalarType

end SqlRecords
