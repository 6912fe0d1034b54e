/-
This file says what is taken to universal time. Of the values these are the zoned date-times, and
of the types that a value can be read as they are the dates, the times and the date-times; of the
tags they are those whose columns store times or date-times. So a conversion ends for want of a
universal date exactly if such a type or such a tag is given an instant beyond the calendar, and
every other error says what was refused.

What a tag has converted is never zoned, so a field behind a tag takes nothing to universal time.
-/

import SqlRecords.Proofs.Calendar.Instant
import SqlRecords.Proofs.Value.StoredType

namespace SqlRecords

/-! ### Instants without a universal date -/

/-- Whether a value is an instant whose universal day is before the first or after the last one of
the calendar. -/
def Value.IsBeyondCalendar (value : Value) : Prop :=
  ∃ zoned, value = .zoned (some zoned) ∧ ¬ zoned.InCalendar

theorem Value.IsBeyondCalendar.isNull_eq_false {value : Value} (beyond : value.IsBeyondCalendar) :
    value.isNull = false := by
  obtain ⟨zoned, rfl, -⟩ := beyond
  rfl

theorem Value.isBeyondCalendar_zoned_iff (zoned : ZonedDateTime) :
    (Value.zoned (some zoned)).IsBeyondCalendar ↔ ¬ zoned.InCalendar := by
  constructor
  · rintro ⟨other, equal, outside⟩
    cases equal
    exact outside
  · exact fun outside => ⟨zoned, rfl, outside⟩

theorem utcOf_eq_utcOutOfRange_iff (zoned : ZonedDateTime) :
    Conversion.utcOf zoned = .error .utcOutOfRange ↔
      (Value.zoned (some zoned)).IsBeyondCalendar := by
  rw [Value.isBeyondCalendar_zoned_iff, ← zoned.utc?_eq_none_iff]
  unfold Conversion.utcOf
  cases zoned.utc? with
  | some moment => exact ⟨fun equal => (nomatch equal), fun equal => (nomatch equal)⟩
  | none => exact ⟨fun _ => rfl, fun _ => rfl⟩

/-! ### Types -/

namespace Conversion

variable {Result : Type}

theorem orUnreadable_ne_utcOutOfRange (text : String) (target : ScalarType)
    (result : Option Result) : orUnreadable text target result ≠ .error .utcOutOfRange := by
  cases result <;> exact fun failed => nomatch failed

theorem orRefused_ne_utcOutOfRange (value : Value) (target : ScalarType)
    (result : Option Result) : orRefused value target result ≠ .error .utcOutOfRange := by
  cases result <;> exact fun failed => nomatch failed

theorem integerOf_ne_utcOutOfRange (kind : IntegerKind) (number : Int) :
    integerOf kind number ≠ .error .utcOutOfRange := by
  unfold integerOf
  split <;> exact fun failed => nomatch failed

end Conversion

namespace ScalarType

/-- The types whose contents are in universal time. -/
def universal : List ScalarType :=
  [.date, .time, .timestamp]

/-- No text is taken to universal time. -/
theorem parse_ne_utcOutOfRange (type : ScalarType) (given : String) :
    type.parse given ≠ .error .utcOutOfRange := by
  intro failed
  cases type with
  | boolean =>
    rw [parse] at failed
    unfold Conversion.readBoolean at failed
    dsimp only at failed
    split at failed
    · cases failed
    · split at failed <;> cases failed
  | integer | floating | decimal | uuid =>
    obtain ⟨reason, -, named⟩ := (mapError_eq_error_iff _ _ _).mp failed
    cases named
  | text | fixedBytes | bytes => cases failed
  | character =>
    rw [parse] at failed
    unfold Conversion.readCharacter at failed
    split at failed <;> cases failed
  | date | time | timestamp | zoned =>
    rw [parse] at failed
    exact Conversion.orUnreadable_ne_utcOutOfRange _ _ _ failed

end ScalarType

namespace Conversion

theorem integerOfValue_ne_utcOutOfRange (kind : IntegerKind) (value : Value) :
    integerOfValue kind value ≠ .error .utcOutOfRange := by
  unfold integerOfValue
  split
  · exact integerOf_ne_utcOutOfRange kind _
  · exact integerOf_ne_utcOutOfRange kind _
  · split
    · exact integerOf_ne_utcOutOfRange kind _
    · exact fun failed => nomatch failed
  · exact ScalarType.parse_ne_utcOutOfRange _ _
  · exact fun failed => nomatch failed

end Conversion

namespace ScalarType

variable {type : ScalarType} {value : Value}

/-- What is refused for want of a universal date is an instant beyond the calendar, read as a date,
a time or a date-time. -/
theorem universal_of_ofValue (failed : type.ofValue value = .error .utcOutOfRange) :
    type ∈ universal ∧ value.IsBeyondCalendar := by
  cases type with
  | boolean =>
    rw [ofValue] at failed
    unfold Conversion.booleanOfValue at failed
    split at failed <;> first | exact absurd failed (parse_ne_utcOutOfRange _ _) | cases failed
  | integer kind => exact absurd failed (Conversion.integerOfValue_ne_utcOutOfRange kind value)
  | floating precision =>
    rw [ofValue] at failed
    unfold Conversion.floatingOfValue at failed
    split at failed <;> first | exact absurd failed (parse_ne_utcOutOfRange _ _) | cases failed
  | decimal =>
    rw [ofValue] at failed
    unfold Conversion.decimalOfValue at failed
    split at failed
    · cases failed
    · cases failed
    · exact absurd failed (Conversion.orRefused_ne_utcOutOfRange _ _ _)
    · exact absurd failed (parse_ne_utcOutOfRange _ _)
    · cases failed
  | text =>
    rw [ofValue] at failed
    unfold Conversion.textOfValue at failed
    split at failed
    · cases failed
    · obtain ⟨reason, -, named⟩ := (mapError_eq_error_iff _ _ _).mp failed
      cases named
    · cases failed
  | character =>
    rw [ofValue] at failed
    unfold Conversion.characterOfValue at failed
    split at failed <;> first | exact absurd failed (parse_ne_utcOutOfRange _ _) | cases failed
  | fixedBytes | bytes =>
    rw [ofValue] at failed
    unfold Conversion.bytesOfValue at failed
    split at failed <;> cases failed
  | date =>
    rw [ofValue] at failed
    unfold Conversion.dateOfValue at failed
    split at failed
    case h_3 zoned =>
      have refused := (map_eq_error_iff _ _ _).mp failed
      exact ⟨by decide, (utcOf_eq_utcOutOfRange_iff zoned).mp refused⟩
    all_goals first | exact absurd failed (parse_ne_utcOutOfRange _ _) | cases failed
  | time =>
    rw [ofValue] at failed
    unfold Conversion.timeOfValue at failed
    split at failed
    case h_3 zoned =>
      have refused := (map_eq_error_iff _ _ _).mp failed
      exact ⟨by decide, (utcOf_eq_utcOutOfRange_iff zoned).mp refused⟩
    all_goals first | exact absurd failed (parse_ne_utcOutOfRange _ _) | cases failed
  | timestamp =>
    rw [ofValue] at failed
    unfold Conversion.timestampOfValue at failed
    split at failed
    case h_3 zoned => exact ⟨by decide, (utcOf_eq_utcOutOfRange_iff zoned).mp failed⟩
    all_goals first | exact absurd failed (parse_ne_utcOutOfRange _ _) | cases failed
  | zoned =>
    rw [ofValue] at failed
    unfold Conversion.zonedOfValue at failed
    split at failed <;> first | exact absurd failed (parse_ne_utcOutOfRange _ _) | cases failed
  | uuid =>
    rw [ofValue] at failed
    unfold Conversion.uuidOfValue at failed
    split at failed
    · cases failed
    · exact absurd failed (Conversion.orRefused_ne_utcOutOfRange _ _ _)
    · exact absurd failed (parse_ne_utcOutOfRange _ _)
    · cases failed

/-- A content in universal time is read off the universal date-time. -/
theorem exists_ofValue_zoned_eq (member : type ∈ universal) :
    ∃ read : DateTime → type.Content, ∀ moment : ZonedDateTime,
      type.ofValue (.zoned (some moment)) = (Conversion.utcOf moment).map read := by
  simp only [universal, List.mem_cons, List.not_mem_nil, or_false] at member
  rcases member with rfl | rfl | rfl
  · exact ⟨DateTime.date, fun _ => rfl⟩
  · exact ⟨DateTime.time, fun _ => rfl⟩
  · refine ⟨id, fun moment => ?_⟩
    show Conversion.utcOf moment = _
    cases Conversion.utcOf moment <;> rfl

/-- A value is refused for want of a universal date exactly if it is an instant beyond the calendar
and read as a date, a time or a date-time. -/
theorem ofValue_eq_utcOutOfRange_iff (type : ScalarType) (value : Value) :
    type.ofValue value = .error .utcOutOfRange ↔ type ∈ universal ∧ value.IsBeyondCalendar := by
  refine ⟨universal_of_ofValue, fun ⟨member, beyond⟩ => ?_⟩
  have ⟨moment, equal, _⟩ := beyond
  subst equal
  obtain ⟨read, reads⟩ := exists_ofValue_zoned_eq member
  rw [reads, map_eq_error_iff]
  exact (utcOf_eq_utcOutOfRange_iff moment).mpr beyond

end ScalarType

namespace FieldType

/-- Whether a field is for contents in universal time. -/
def IsUniversal : FieldType → Prop
  | required type | optional type => type ∈ ScalarType.universal

theorem universal_of_ofValue {type : FieldType} {value : Value}
    (failed : type.ofValue value = .error .utcOutOfRange) :
    type.IsUniversal ∧ value.IsBeyondCalendar := by
  cases type with
  | required type => exact ScalarType.universal_of_ofValue failed
  | optional type =>
    rw [ofValue] at failed
    split at failed
    · cases failed
    · exact ScalarType.universal_of_ofValue ((map_eq_error_iff _ _ _).mp failed)

theorem ofNull_ne_utcOutOfRange (type : FieldType) : type.ofNull ≠ .error .utcOutOfRange := by
  intro failed
  cases type with
  | optional type => cases failed
  | required type => cases type <;> cases failed

end FieldType

/-! ### Tags -/

namespace Conversion

theorem plainText_ne_utcOutOfRange (value : Value) :
    plainText value ≠ .error .utcOutOfRange := by
  intro failed
  unfold plainText at failed
  split at failed
  case h_2 content =>
    cases content with
    | none => cases failed
    | some content =>
      obtain ⟨reason, -, named⟩ := (mapError_eq_error_iff _ _ _).mp failed
      cases named
  all_goals cases failed

theorem yearOfValue_eq_utcOutOfRange_iff (value : Value) :
    yearOfValue value = .error .utcOutOfRange ↔ value.IsBeyondCalendar := by
  constructor
  · intro failed
    unfold yearOfValue at failed
    split at failed
    case h_4 =>
      rcases (bind_eq_error_iff _ _ _).mp failed with read | ⟨year, -, started⟩
      · exact absurd read (integerOfValue_ne_utcOutOfRange _ _)
      · obtain ⟨part, -, named⟩ := (mapError_eq_error_iff _ _ _).mp started
        cases named
    all_goals exact ((ScalarType.timestamp.ofValue_eq_utcOutOfRange_iff _).mp failed).2
  · intro beyond
    have ⟨zoned, equal, _⟩ := beyond
    subst equal
    exact (utcOf_eq_utcOutOfRange_iff zoned).mpr beyond

end Conversion

namespace TagFamily

/-- The families whose columns store what is in universal time. -/
def universal : List TagFamily :=
  [.time, .timestamp, .year]

/-- A value is refused by a family for want of a universal date exactly if it is an instant beyond
the calendar and the family stores times or date-times. -/
theorem convert_eq_utcOutOfRange_iff (family : TagFamily) (value : Value) :
    family.convert value = .error .utcOutOfRange ↔
      family ∈ universal ∧ value.IsBeyondCalendar := by
  have through (type : ScalarType) : Conversion.through type value = .error .utcOutOfRange ↔
      type ∈ ScalarType.universal ∧ value.IsBeyondCalendar :=
    (map_eq_error_iff _ _ _).trans (type.ofValue_eq_utcOutOfRange_iff value)
  cases family with
  | time | timestamp | decimal | blob | uuid =>
    exact (through _).trans (and_congr_left' (by decide))
  | integer | floating =>
    exact (through _).trans (and_congr_left' (by simp [universal, ScalarType.universal]))
  | year =>
    refine (map_eq_error_iff _ _ _).trans ?_
    rw [Conversion.yearOfValue_eq_utcOutOfRange_iff, and_iff_right (by decide)]
  | text =>
    refine iff_of_false (fun failed => ?_) fun ⟨member, _⟩ => absurd member (by decide)
    exact Conversion.plainText_ne_utcOutOfRange value ((map_eq_error_iff _ _ _).mp failed)

end TagFamily

namespace ColumnTag

variable {tag : ColumnTag} {value converted : Value}

theorem convert_eq_utcOutOfRange_iff (tag : ColumnTag) (value : Value) :
    tag.convert value = .error .utcOutOfRange ↔
      tag.family ∈ TagFamily.universal ∧ value.IsBeyondCalendar := by
  cases missing : value.isNull with
  | true =>
    rw [convert_of_isNull missing]
    refine iff_of_false (fun failed => nomatch failed) fun ⟨_, beyond⟩ => ?_
    rw [beyond.isNull_eq_false] at missing
    cases missing
  | false =>
    rw [convert_of_present missing]
    exact tag.family.convert_eq_utcOutOfRange_iff value

/-- What a tag has converted is not beyond the calendar. -/
theorem not_isBeyondCalendar_of_convert (accepted : tag.convert value = .ok converted) :
    ¬ converted.IsBeyondCalendar := by
  rintro ⟨zoned, rfl, -⟩
  cases missing : value.isNull with
  | true =>
    rw [convert_of_isNull missing] at accepted
    cases accepted
    cases missing
  | false =>
    rw [convert_of_present missing] at accepted
    obtain ⟨-, stored⟩ := TagFamily.stored_of_convert accepted
    generalize tag.family = family at stored
    cases family <;> cases stored

end ColumnTag

end SqlRecords
