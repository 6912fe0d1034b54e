/-
This file says what becomes of a row of results. Its labels decide nothing, and of its values only
those that stand where a column stands; a column without a value is given a null.

The building of a record is judged by relations that speak of one value at a time: what the tag of
a column makes of a value, and what the field makes of what the tag gave. The tags of the whole
row come before any field, so a value that a tag refuses decides over one that a field refuses,
wherever the two stand; among values refused alike the first one decides. An error names the field
and the value, except that an instant without a universal date ends the building without a name.
That happens only where a column takes instants to universal time: by its tag, or without a tag by
its field, since nothing that a tag has converted is an instant.
-/

import SqlRecords.Proofs.Record.StoredRow
import SqlRecords.Proofs.Value.UniversalTime

namespace SqlRecords

/-! ### What becomes of one value -/

/-- What the tag of a column makes of a value: nulls stay as they are, and so do all values of a
column without a tag. -/
inductive Column.Converts (column : Column) (value : Value) :
    Except ConversionError Value → Prop where
  | null (null : value.isNull = true) : Converts column value (.ok value)
  | untagged (untagged : column.tag = none) : Converts column value (.ok value)
  | tagged (tag : ColumnTag) (tagged : column.tag = some tag) (present : value.isNull = false) :
    Converts column value (tag.convert value)

/-- What the field of a column makes of a value: a field without a type keeps it, and a field with
one has a content for a null and reads one from every other value. -/
inductive Column.Assigns (column : Column) (value : Value) :
    Except ConversionError Value → Prop where
  | untyped (untyped : column.type = none) : Assigns column value (.ok value)
  | null (type : FieldType) (typed : column.type = some type) (null : value.isNull = true) :
    Assigns column value (type.ofNull.map type.toValue)
  | present (type : FieldType) (typed : column.type = some type)
      (present : value.isNull = false) :
    Assigns column value ((type.ofValue value).map type.toValue)

/-- What becomes of a row with one value for every column: an error for the first value that a tag
refuses, or else for the first converted value that a field refuses, or else the record of what
the fields make of the converted values. -/
inductive Materializes (columns : List Column) (values : List Value) :
    Except RecordError (List Value) → Prop where
  | refusedByTag (before after : List (Column × Value)) (column : Column) (value : Value)
      (reason : ConversionError) (split : columns.zip values = before ++ (column, value) :: after)
      (earlier : ∀ cell ∈ before, ∃ converted, cell.1.Converts cell.2 (.ok converted))
      (refused : column.Converts value (.error reason)) :
    Materializes columns values (.error (.ofField column.field value reason))
  | refusedByField (converted : List Value) (before after : List (Column × Value))
      (column : Column) (value : Value) (reason : ConversionError)
      (conversion : List.Forall₂ (fun cell converted => cell.1.Converts cell.2 (.ok converted))
        (columns.zip values) converted)
      (split : columns.zip converted = before ++ (column, value) :: after)
      (earlier : ∀ cell ∈ before, ∃ content, cell.1.Assigns cell.2 (.ok content))
      (refused : column.Assigns value (.error reason)) :
    Materializes columns values (.error (.ofField column.field value reason))
  | record (converted record : List Value)
      (conversion : List.Forall₂ (fun cell converted => cell.1.Converts cell.2 (.ok converted))
        (columns.zip values) converted)
      (assignment : List.Forall₂ (fun cell content => cell.1.Assigns cell.2 (.ok content))
        (columns.zip converted) record) :
    Materializes columns values (.ok record)

/-! ### One value -/

theorem convert_of_converts {column : Column} {value : Value}
    {outcome : Except ConversionError Value} (converts : column.Converts value outcome) :
    column.convert value = outcome.mapError (.ofField column.field value) := by
  unfold Column.convert
  cases converts with
  | null null =>
    split
    · rw [ColumnTag.convert, null, if_pos rfl]
    · rfl
  | untagged untagged =>
    rw [untagged]
    rfl
  | tagged tag tagged present => rw [tagged]

theorem exists_converts (column : Column) (value : Value) :
    ∃ outcome, column.Converts value outcome := by
  cases null : value.isNull with
  | true => exact ⟨_, .null null⟩
  | false =>
    cases tagged : column.tag with
    | none => exact ⟨_, .untagged tagged⟩
    | some tag => exact ⟨_, .tagged tag tagged null⟩

theorem assign_of_assigns {column : Column} {value : Value}
    {outcome : Except ConversionError Value} (assigns : column.Assigns value outcome) :
    column.assign value = outcome.mapError (.ofField column.field value) := by
  have typed (type : FieldType) (typed : column.type = some type) :
      column.assign value =
        ((type.ofCell value).map type.toValue).mapError (.ofField column.field value) := by
    rw [Column.assign, typed]
    dsimp only [FieldType.assign]
    cases type.ofCell value <;> rfl
  cases assigns with
  | untyped untyped =>
    rw [Column.assign, untyped]
    rfl
  | null type isTyped null => rw [typed type isTyped, FieldType.ofCell, null, if_pos rfl]
  | present type isTyped present =>
    rw [typed type isTyped, FieldType.ofCell, present, if_neg Bool.false_ne_true]

theorem exists_assigns (column : Column) (value : Value) :
    ∃ outcome, column.Assigns value outcome := by
  cases typed : column.type with
  | none => exact ⟨_, .untyped typed⟩
  | some type =>
    cases null : value.isNull with
    | true => exact ⟨_, .null type typed null⟩
    | false => exact ⟨_, .present type typed null⟩

section Judged

variable {judges : Except ConversionError Value → Prop} {result : Except RecordError Value}
  {field : String} {value : Value}

/-- A step that follows a judgement, which exists, has the results that are judged. -/
theorem eq_ok_iff_of_judged (judged : ∃ outcome, judges outcome)
    (follows : ∀ outcome, judges outcome → result = outcome.mapError (.ofField field value))
    (content : Value) : result = .ok content ↔ judges (.ok content) := by
  constructor
  · intro succeeded
    obtain ⟨outcome, holds⟩ := judged
    rw [follows outcome holds, mapError_eq_ok_iff] at succeeded
    exact succeeded ▸ holds
  · exact fun holds => follows _ holds

/-- A step that follows a judgement, which exists, has the failures that are judged. -/
theorem eq_error_iff_of_judged (judged : ∃ outcome, judges outcome)
    (follows : ∀ outcome, judges outcome → result = outcome.mapError (.ofField field value))
    (failure : RecordError) :
    result = .error failure ↔
      ∃ reason, judges (.error reason) ∧ RecordError.ofField field value reason = failure := by
  constructor
  · intro failed
    obtain ⟨outcome, holds⟩ := judged
    rw [follows outcome holds, mapError_eq_error_iff] at failed
    obtain ⟨reason, equal, named⟩ := failed
    exact ⟨reason, equal ▸ holds, named⟩
  · rintro ⟨reason, holds, rfl⟩
    exact follows _ holds

end Judged

theorem convert_eq_ok_iff (column : Column) (value converted : Value) :
    column.convert value = .ok converted ↔ column.Converts value (.ok converted) :=
  eq_ok_iff_of_judged (exists_converts column value) (fun _ => convert_of_converts) converted

theorem convert_eq_error_iff (column : Column) (value : Value) (failure : RecordError) :
    column.convert value = .error failure ↔ ∃ reason, column.Converts value (.error reason) ∧
      RecordError.ofField column.field value reason = failure :=
  eq_error_iff_of_judged (exists_converts column value) (fun _ => convert_of_converts) failure

theorem assign_eq_ok_iff (column : Column) (value content : Value) :
    column.assign value = .ok content ↔ column.Assigns value (.ok content) :=
  eq_ok_iff_of_judged (exists_assigns column value) (fun _ => assign_of_assigns) content

theorem assign_eq_error_iff (column : Column) (value : Value) (failure : RecordError) :
    column.assign value = .error failure ↔ ∃ reason, column.Assigns value (.error reason) ∧
      RecordError.ofField column.field value reason = failure :=
  eq_error_iff_of_judged (exists_assigns column value) (fun _ => assign_of_assigns) failure

/-! ### All values of a row -/

theorem mapM_convert_eq_ok_iff (columns : List Column) (values converted : List Value) :
    (columns.zip values).mapM (fun cell => cell.1.convert cell.2) = .ok converted ↔
      List.Forall₂ (fun cell converted => cell.1.Converts cell.2 (.ok converted))
        (columns.zip values) converted := by
  simp only [mapM_eq_ok_iff, convert_eq_ok_iff]

theorem mapM_assign_eq_ok_iff (columns : List Column) (values record : List Value) :
    (columns.zip values).mapM (fun cell => cell.1.assign cell.2) = .ok record ↔
      List.Forall₂ (fun cell content => cell.1.Assigns cell.2 (.ok content))
        (columns.zip values) record := by
  simp only [mapM_eq_ok_iff, assign_eq_ok_iff]

/-- The fields are given the converted values, which are as many as there are columns. -/
theorem build_of_converted {table : Table} {values converted : List Value}
    (conversion : List.Forall₂ (fun cell converted => cell.1.Converts cell.2 (.ok converted))
      (table.columns.zip (table.fit values)) converted) :
    table.build converted =
      (table.columns.zip converted).mapM fun cell => cell.1.assign cell.2 := by
  have size := conversion.length_eq
  rw [List.length_zip, length_fit, Nat.min_self] at size
  rw [Table.build, fit_of_length table converted size.symm]

/-- The building of a record does what the relation says. -/
theorem materialize_eq_iff (table : Table) (row : ResultRow)
    (outcome : Except RecordError (List Value)) :
    table.materialize row = outcome ↔
      Materializes table.columns (table.fit row.values) outcome := by
  unfold Table.materialize
  constructor
  · intro built
    cases outcome with
    | ok record =>
      obtain ⟨converted, passed, built⟩ := (bind_eq_ok_iff _ _ _).mp built
      have conversion := (mapM_convert_eq_ok_iff _ _ _).mp passed
      rw [build_of_converted conversion, mapM_assign_eq_ok_iff] at built
      exact .record converted record conversion built
    | error failure =>
      rcases (bind_eq_error_iff _ _ _).mp built with failed | ⟨converted, passed, failed⟩
      · obtain ⟨before, ⟨column, value⟩, after, split, earlier, failed⟩ :=
          (mapM_eq_error_iff _ _ _).mp failed
        obtain ⟨reason, refused, rfl⟩ := (convert_eq_error_iff _ _ _).mp failed
        simp only [convert_eq_ok_iff] at earlier
        exact .refusedByTag before after column value reason split earlier refused
      · have conversion := (mapM_convert_eq_ok_iff _ _ _).mp passed
        rw [build_of_converted conversion] at failed
        obtain ⟨before, ⟨column, value⟩, after, split, earlier, failed⟩ :=
          (mapM_eq_error_iff _ _ _).mp failed
        obtain ⟨reason, refused, rfl⟩ := (assign_eq_error_iff _ _ _).mp failed
        simp only [assign_eq_ok_iff] at earlier
        exact .refusedByField converted before after column value reason conversion split earlier
          refused
  · intro materializes
    cases materializes with
    | refusedByTag before after column value reason split earlier refused =>
      simp only [← convert_eq_ok_iff] at earlier
      refine (bind_eq_error_iff _ _ _).mpr (.inl ((mapM_eq_error_iff _ _ _).mpr ?_))
      exact ⟨before, (column, value), after, split, earlier,
        (convert_eq_error_iff _ _ _).mpr ⟨reason, refused, rfl⟩⟩
    | refusedByField converted before after column value reason conversion split earlier refused =>
      simp only [← assign_eq_ok_iff] at earlier
      refine (bind_eq_error_iff _ _ _).mpr
        (.inr ⟨converted, (mapM_convert_eq_ok_iff _ _ _).mpr conversion, ?_⟩)
      rw [build_of_converted conversion, mapM_eq_error_iff]
      exact ⟨before, (column, value), after, split, earlier,
        (assign_eq_error_iff _ _ _).mpr ⟨reason, refused, rfl⟩⟩
    | record converted record conversion assignment =>
      refine (bind_eq_ok_iff _ _ _).mpr
        ⟨converted, (mapM_convert_eq_ok_iff _ _ _).mpr conversion, ?_⟩
      rw [build_of_converted conversion, mapM_assign_eq_ok_iff]
      exact assignment

/-! ### Failures that name no field -/

/-- Whether a column takes instants to universal time: by a tag for times or date-times, or without
a tag by a field for dates, times or date-times. -/
def Column.ReadsUniversalTime (column : Column) : Prop :=
  match column.tag with
  | some tag => tag.family ∈ TagFamily.universal
  | none => ∃ type, column.type = some type ∧ type.IsUniversal

theorem ofField_eq_utcOutOfRange_iff (field : String) (value : Value) (reason : ConversionError) :
    RecordError.ofField field value reason = .utcOutOfRange ↔ reason = .utcOutOfRange := by
  constructor
  · intro unnamed
    cases reason <;> first | rfl | cases unnamed
  · rintro rfl
    rfl

section Abandoned

variable {column : Column} {value : Value} {outcome : Except ConversionError Value}

theorem isBeyondCalendar_of_converts (converts : column.Converts value outcome)
    (failed : outcome = .error .utcOutOfRange) :
    column.ReadsUniversalTime ∧ value.IsBeyondCalendar := by
  cases converts with
  | null => cases failed
  | untagged => cases failed
  | tagged tag tagged present =>
    unfold Column.ReadsUniversalTime
    rw [tagged]
    exact (tag.convert_eq_utcOutOfRange_iff value).mp failed

theorem isBeyondCalendar_of_assigns (assigns : column.Assigns value outcome)
    (failed : outcome = .error .utcOutOfRange) :
    (∃ type, column.type = some type ∧ type.IsUniversal) ∧ value.IsBeyondCalendar := by
  cases assigns with
  | untyped => cases failed
  | null type typed null =>
    exact absurd ((map_eq_error_iff _ _ _).mp failed) type.ofNull_ne_utcOutOfRange
  | present type typed present =>
    obtain ⟨universal, beyond⟩ :=
      FieldType.universal_of_ofValue ((map_eq_error_iff _ _ _).mp failed)
    exact ⟨⟨type, typed, universal⟩, beyond⟩

/-- A converted value that is beyond the calendar has passed no tag. -/
theorem eq_of_converts_of_isBeyondCalendar {converted : Value}
    (converts : column.Converts value outcome) (passed : outcome = .ok converted)
    (beyond : converted.IsBeyondCalendar) : column.tag = none ∧ value = converted := by
  cases converts with
  | null null =>
    cases passed
    rw [beyond.isNull_eq_false] at null
    cases null
  | untagged untagged =>
    cases passed
    exact ⟨untagged, rfl⟩
  | tagged tag tagged present =>
    exact absurd beyond (ColumnTag.not_isBeyondCalendar_of_convert passed)

end Abandoned

/-- A converted value comes from the value that stands at the same column. -/
theorem exists_converts_of_conversion {columns : List Column} {values converted : List Value}
    (conversion : List.Forall₂ (fun cell converted => cell.1.Converts cell.2 (.ok converted))
      (columns.zip values) converted)
    {column : Column} {value : Value} (member : (column, value) ∈ columns.zip converted) :
    ∃ given, (column, given) ∈ columns.zip values ∧ column.Converts given (.ok value) := by
  obtain ⟨position, found⟩ := List.mem_iff_getElem?.mp member
  obtain ⟨columnFound, valueFound⟩ := List.getElem?_zip_eq_some.mp found
  obtain ⟨⟨other, given⟩, cellFound, converts⟩ :=
    exists_getElem?_of_forall₂ (List.Forall₂.flip conversion) valueFound
  obtain ⟨otherFound, -⟩ := List.getElem?_zip_eq_some.mp cellFound
  obtain rfl := Option.some.inj (columnFound.symm.trans otherFound)
  exact ⟨given, List.mem_of_getElem? cellFound, converts⟩

/-- The building of a record ends without a name only where a column that takes instants to
universal time is given one beyond the calendar. -/
theorem isBeyondCalendar_of_materializes {columns : List Column} {values : List Value}
    {outcome : Except RecordError (List Value)} (materializes : Materializes columns values outcome)
    (unnamed : outcome = .error .utcOutOfRange) :
    ∃ cell ∈ columns.zip values, cell.1.ReadsUniversalTime ∧ cell.2.IsBeyondCalendar := by
  have here (before after : List (Column × Value)) (cell : Column × Value) :
      cell ∈ before ++ cell :: after := List.mem_append_right before List.mem_cons_self
  cases materializes with
  | record => cases unnamed
  | refusedByTag before after column value reason split earlier refused =>
    obtain rfl := (ofField_eq_utcOutOfRange_iff _ _ _).mp (Except.error.inj unnamed)
    exact ⟨(column, value), split ▸ here before after _, isBeyondCalendar_of_converts refused rfl⟩
  | refusedByField converted before after column value reason conversion split earlier refused =>
    obtain rfl := (ofField_eq_utcOutOfRange_iff _ _ _).mp (Except.error.inj unnamed)
    obtain ⟨universal, beyond⟩ := isBeyondCalendar_of_assigns refused rfl
    obtain ⟨given, member, converts⟩ :=
      exists_converts_of_conversion conversion (split ▸ here before after _)
    -- the field was given an instant, which no tag gives
    obtain ⟨untagged, rfl⟩ := eq_of_converts_of_isBeyondCalendar converts rfl beyond
    refine ⟨(column, given), member, ?_, beyond⟩
    unfold Column.ReadsUniversalTime
    rw [untagged]
    exact universal

/-! ### Rows -/

/-- The values that a row has for columns: it is cut, or nulls are put behind it. -/
theorem fit_eq (table : Table) (values : List Value) :
    table.fit values = values.take table.columns.length ++
      List.replicate (table.columns.length - values.length) .null := by
  unfold Table.fit
  rw [List.take_append, List.take_replicate, Nat.min_eq_left (Nat.sub_le _ _)]

/-- What is put behind a row is null, so any other value that a column has stands in the row. -/
theorem mem_zip_of_mem_zip_fit {table : Table} {values : List Value} {cell : Column × Value}
    (member : cell ∈ table.columns.zip (table.fit values)) (present : cell.2.isNull = false) :
    cell ∈ table.columns.zip values := by
  obtain ⟨position, found⟩ := List.mem_iff_getElem?.mp member
  rw [Table.fit, zip_take_length] at found
  obtain ⟨columnFound, valueFound⟩ := List.getElem?_zip_eq_some.mp found
  rw [List.getElem?_append] at valueFound
  split at valueFound
  case isTrue =>
    exact List.mem_of_getElem? (List.getElem?_zip_eq_some.mpr ⟨columnFound, valueFound⟩)
  case isFalse =>
    have null := List.eq_of_mem_replicate (List.mem_of_getElem? valueFound)
    rw [null] at present
    cases present

/-- Whatever the labels above a row say, they can be any others, and surplus values can be left
out and nulls be given for missing ones. The outcome is then the one that tags and fields
determine. A failure names a field and a value, unless a column that takes instants to universal
time is given one beyond the calendar. -/
theorem materialize_positional (table : Table) (labels otherLabels : List String)
    (values : List Value) :
    table.materialize ⟨labels, values⟩ =
        table.materialize ⟨otherLabels, values.take table.columns.length ++
          List.replicate (table.columns.length - values.length) .null⟩ ∧
      (∀ outcome, table.materialize ⟨labels, values⟩ = outcome ↔
        Materializes table.columns (values.take table.columns.length ++
          List.replicate (table.columns.length - values.length) .null) outcome) ∧
      ∀ failure, table.materialize ⟨labels, values⟩ = .error failure →
        (∃ field value reason, failure = .conversion field value reason) ∨
          ∃ cell ∈ table.columns.zip values,
            cell.1.ReadsUniversalTime ∧ cell.2.IsBeyondCalendar := by
  rw [← fit_eq]
  refine ⟨?_, fun outcome => materialize_eq_iff table ⟨labels, values⟩ outcome,
    fun failure failed => ?_⟩
  · unfold Table.materialize
    dsimp only
    rw [fit_of_length table _ (length_fit table values)]
  · cases failure with
    | conversion field value reason => exact .inl ⟨field, value, reason, rfl⟩
    | utcOutOfRange =>
      obtain ⟨cell, member, universal, beyond⟩ :=
        isBeyondCalendar_of_materializes ((materialize_eq_iff _ _ _).mp failed) rfl
      exact .inr ⟨cell, mem_zip_of_mem_zip_fit member beyond.isNull_eq_false, universal, beyond⟩

/-- The last minute of the last year, an hour behind universal time. -/
def lastMinute : ZonedDateTime where
  clock.date :=
    ⟨9999, 12, 31, by decide, by decide, firstDate.month_le, by decide, by decide, by decide⟩
  clock.time :=
    { Time.midnight with hour := 23, minute := 59, hour_lt := by decide, minute_lt := by decide }
  offset := -3600
  offset_ge := by decide
  offset_le := by decide

/-- A table of points of time with numbers. -/
def countedTimes : Table where
  name := "T"
  columns :=
    [{ field := "at", name := "at", tag := some .dateTime },
      { field := "n", name := "n", tag := some .int32 }]

/-- An instant whose universal date does not exist ends the building without a record, and with no
error of a conversion either, although a text that is no number stands behind it. -/
theorem materialize_lastMinute :
    countedTimes.materialize ⟨["at", "n"], [.zoned (some lastMinute), .text (some "x")]⟩ =
        .error .utcOutOfRange ∧
      (∀ record, countedTimes.materialize
        ⟨["at", "n"], [.zoned (some lastMinute), .text (some "x")]⟩ ≠ .ok record) ∧
      (∀ field value reason, countedTimes.materialize
        ⟨["at", "n"], [.zoned (some lastMinute), .text (some "x")]⟩ ≠
          .error (.conversion field value reason)) ∧
      ∃ cell ∈ countedTimes.columns.zip [Value.zoned (some lastMinute), .text (some "x")],
        cell.1.ReadsUniversalTime ∧ cell.2.IsBeyondCalendar := by
  have refused : ColumnTag.dateTime.convert (.zoned (some lastMinute)) = .error .utcOutOfRange :=
    (ColumnTag.convert_eq_utcOutOfRange_iff _ _).mpr ⟨by decide, lastMinute, rfl, by decide⟩
  have converts : countedTimes.columns[0].Converts (.zoned (some lastMinute))
      (.error .utcOutOfRange) := refused ▸ .tagged .dateTime rfl rfl
  obtain ⟨-, decided, named⟩ := materialize_positional countedTimes ["at", "n"] []
    [.zoned (some lastMinute), .text (some "x")]
  have abandoned := (decided (.error .utcOutOfRange)).mpr
    (.refusedByTag [] [(countedTimes.columns[1], .text (some "x"))] countedTimes.columns[0]
      (.zoned (some lastMinute)) .utcOutOfRange rfl (fun _ none => nomatch none) converts)
  refine ⟨abandoned, fun record equal => ?_, fun field value reason equal => ?_, ?_⟩
  · exact nomatch abandoned.symm.trans equal
  · exact nomatch abandoned.symm.trans equal
  · rcases named _ abandoned with ⟨field, value, reason, equal⟩ | beyond
    · cases equal
    · exact beyond

end SqlRecords
