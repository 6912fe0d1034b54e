/-
This file proves that an integer reaches the field of a record as it is or not at all. A value that
stands for an integer passes a tag for integers if the integer is one of the kind of the tag, and
is then taken by the field if it is one of the kind of the field; otherwise the error names the
field. Nothing is wrapped, cut off or rounded, however the tag and the field differ in width.

Texts stand for the integer whose decimal text they hold between white space. Other texts may be
read as well, those with a plus for one, so what is refused here is only what can stand for no
integer at all: a null, a number with a fraction or of floating point, a point of time, bytes and
identifiers.
-/

import SqlRecords.Proofs.Record.Materialization
import SqlRecords.Proofs.Value.WholeNumber

namespace SqlRecords

/-! ### Values that stand for integers, and others -/

/-- The integers that values stand for: integers of any kind for themselves, truth values for one
and zero, decimals for what they are equal to, and texts for what they write. -/
inductive Value.StandsFor : Value → Int → Prop where
  | integer {kind : IntegerKind} (content : Integer kind) :
    StandsFor (.integer kind (some content)) content.value
  | boolean (content : Bool) : StandsFor (.boolean (some content)) (if content then 1 else 0)
  | decimal {content : Decimal} {number : Int}
    (equal : content.signedMantissa = number * 10 ^ content.scale) :
    StandsFor (.decimal (some content)) number
  | text {content : String} {before after : List Char} {number : Int}
    (around : content.toList = before ++ Integer.intText number ++ after)
    (blankBefore : ∀ character ∈ before, Text.isBlank character = true)
    (blankAfter : ∀ character ∈ after, Text.isBlank character = true) :
    StandsFor (.text (some content)) number

/-- The values that can stand for no integer. -/
inductive Value.NoInteger : Value → Prop where
  | null {value : Value} (null : value.isNull = true) : NoInteger value
  | fraction {content : Decimal}
    (fraction : ∀ number : Int, content.signedMantissa ≠ number * 10 ^ content.scale) :
    NoInteger (.decimal (some content))
  | floating {precision : Precision} (content : Floating precision) :
    NoInteger (.floating precision (some content))
  | date (content : Date) : NoInteger (.date (some content))
  | time (content : Time) : NoInteger (.time (some content))
  | timestamp (content : DateTime) : NoInteger (.timestamp (some content))
  | zoned (content : ZonedDateTime) : NoInteger (.zoned (some content))
  | blob (content : List UInt8) : NoInteger (.blob (some content))
  | uuid (content : Uuid) : NoInteger (.uuid (some content))

theorem Value.StandsFor.isNull_eq_false {value : Value} {number : Int}
    (stands : value.StandsFor number) : value.isNull = false := by
  cases stands <;> rfl

/-! ### Reading the integer -/

namespace Conversion

variable {kind : IntegerKind} {value : Value} {number : Int}

/-- A kind with negative members has the texts of all integers for numerals, whatever its range. -/
theorem isNumeral_int64_intText (number : Int) :
    Integer.IsNumeral .int64 (Integer.intText number) number :=
  Integer.isNumeral_intText number fun _ => rfl

theorem trimmed_of_intText {content : String} {before after : List Char}
    (around : content.toList = before ++ Integer.intText number ++ after)
    (blankBefore : ∀ character ∈ before, Text.isBlank character = true)
    (blankAfter : ∀ character ∈ after, Text.isBlank character = true) :
    trimmed content = Integer.intText number :=
  Integer.trimmed_of_isNumeral around blankBefore blankAfter (isNumeral_int64_intText number)

/-- A value that stands for an integer denotes it for every kind that can have it. -/
theorem denotes_of_standsFor (stands : value.StandsFor number)
    (isSigned : number < 0 → kind.isSigned = true) : value.Denotes kind number := by
  cases stands with
  | integer content => exact .integer content
  | boolean content => exact .boolean content
  | decimal equal => exact .decimal equal
  | text around blankBefore blankAfter =>
    exact .text around blankBefore blankAfter (Integer.isNumeral_intText number isSigned)

/-- A value that stands for an integer denotes no other one. -/
theorem eq_of_denotes_of_standsFor (stands : value.StandsFor number) {other : Int}
    (denotes : value.Denotes kind other) : other = number := by
  cases stands with
  | integer content => exact ((denotes_integer_iff content other).mp denotes).symm
  | boolean content => exact ((denotes_boolean_iff content other).mp denotes).symm
  | decimal equal =>
    rw [← ((denotes_decimal_iff _ other).mp denotes).2]
    exact ((Decimal.signedMantissa_eq_iff _ number).mp equal).2
  | text around blankBefore blankAfter =>
    have numeral := (denotes_text_iff _ other).mp denotes
    rw [trimmed_of_intText around blankBefore blankAfter] at numeral
    exact numeral.unique (isNumeral_int64_intText number)

/-- A value that stands for an integer is read as it in the range of the kind, and refused outside
of it. -/
theorem integerOfValue_of_standsFor (kind : IntegerKind) (stands : value.StandsFor number) :
    (∀ content : Integer kind, content.value = number →
      integerOfValue kind value = .ok content) ∧
      (¬ (kind.least ≤ number ∧ number ≤ kind.greatest) →
        ∃ reason, integerOfValue kind value = .error reason ∧ reason ≠ .utcOutOfRange) := by
  constructor
  · rintro content rfl
    rw [integerOfValue_eq_ok_iff]
    exact denotes_of_standsFor stands (Integer.isSigned_of_neg content)
  · intro outside
    cases read : integerOfValue kind value with
    | ok content =>
      rw [integerOfValue_eq_ok_iff] at read
      rw [← eq_of_denotes_of_standsFor stands read] at outside
      exact absurd ⟨content.least_le, content.le_greatest⟩ outside
    | error reason =>
      refine ⟨reason, rfl, ?_⟩
      rintro rfl
      exact integerOfValue_ne_utcOutOfRange kind value read

/-- What can stand for no integer is refused. -/
theorem integerOfValue_of_noInteger (noInteger : value.NoInteger) (kind : IntegerKind) :
    integerOfValue kind value = .error (.notConvertible value (.integer kind)) := by
  cases noInteger with
  | null null =>
    unfold integerOfValue
    split <;> first | rfl | cases null
  | @fraction content fraction =>
    have notWhole : ¬ content.isWhole = true := fun whole =>
      fraction content.wholePart ((content.signedMantissa_eq_iff _).mpr ⟨whole, rfl⟩)
    exact if_neg notWhole
  | _ => rfl

end Conversion

/-! ### Tags and fields of integers -/

namespace Column

variable {column : Column} {kind : IntegerKind} {value : Value} {number : Int}

/-- Whether the field of a column is for integers of a kind. -/
def KeepsIntegers (column : Column) (kind : IntegerKind) : Prop :=
  column.type = some (.required (.integer kind)) ∨ column.type = some (.optional (.integer kind))

/-- Whether an integer is one of the kind of the tag, if the column has one for integers, and of
the kind of the field. -/
def HasRoomFor (column : Column) (kind : IntegerKind) (number : Int) : Prop :=
  (∀ tag wide, column.tag = some tag → tag.family = .integer wide →
    wide.least ≤ number ∧ number ≤ wide.greatest) ∧
    kind.least ≤ number ∧ number ≤ kind.greatest

/-- What is made of the integer that is read from a value, or the error that names a field. -/
def readInteger (column : Column) (kind : IntegerKind) (value : Value) :
    Except RecordError Value :=
  ((Conversion.integerOfValue kind value).map fun content =>
    .integer kind (some content)).mapError (.ofField column.field value)

theorem readInteger_of_standsFor (column : Column) (kind : IntegerKind)
    (stands : value.StandsFor number) :
    (∀ content : Integer kind, content.value = number →
      column.readInteger kind value = .ok (.integer kind (some content))) ∧
      (¬ (kind.least ≤ number ∧ number ≤ kind.greatest) →
        ∃ reason, column.readInteger kind value =
          .error (.conversion column.field value reason)) := by
  obtain ⟨reads, refuses⟩ := Conversion.integerOfValue_of_standsFor kind stands
  unfold readInteger
  refine ⟨fun content same => by rw [reads content same]; rfl, fun outside => ?_⟩
  obtain ⟨reason, refused, noInstant⟩ := refuses outside
  refine ⟨reason, ?_⟩
  rw [refused]
  cases reason with
  | utcOutOfRange => exact absurd rfl noInstant
  | _ => rfl

theorem convert_eq_readInteger {tag : ColumnTag} (tagged : column.tag = some tag)
    (family : tag.family = .integer kind) (present : value.isNull = false) :
    column.convert value = column.readInteger kind value := by
  rw [convert_of_converts (.tagged tag tagged present), ColumnTag.convert, present,
    if_neg Bool.false_ne_true, family]
  rfl

theorem assign_eq_readInteger (typed : column.KeepsIntegers kind)
    (present : value.isNull = false) :
    column.assign value = column.readInteger kind value := by
  rcases typed with required | optional
  · exact assign_of_assigns (.present _ required present)
  · rw [assign_of_assigns (.present _ optional present), FieldType.ofValue, present,
      if_neg Bool.false_ne_true]
    unfold readInteger
    congr 1
    show Except.map _ (Except.map _ (Conversion.integerOfValue kind value)) = _
    cases Conversion.integerOfValue kind value <;> rfl

/-- Once a value is behind the tag, and stands for an integer that fits there, the field decides. -/
theorem assign_of_converted {given : Value} (typed : column.KeepsIntegers kind)
    (converted : column.convert value = .ok given) (stands : given.StandsFor number)
    (fits : ∀ tag wide, column.tag = some tag → tag.family = .integer wide →
      wide.least ≤ number ∧ number ≤ wide.greatest) :
    (column.HasRoomFor kind number → ∃ content : Integer kind, content.value = number ∧
      (column.convert value >>= column.assign) = .ok (.integer kind (some content))) ∧
      (¬ column.HasRoomFor kind number → ∃ refused reason,
        (column.convert value >>= column.assign) =
          .error (.conversion column.field refused reason)) := by
  obtain ⟨takes, refuses⟩ := column.readInteger_of_standsFor kind stands
  have composed : (column.convert value >>= column.assign) = column.readInteger kind given := by
    rw [converted, ← assign_eq_readInteger typed stands.isNull_eq_false]
    rfl
  rw [composed]
  refine ⟨fun room => ?_, fun noRoom => ?_⟩
  · exact ⟨⟨number, room.2.1, room.2.2⟩, rfl, takes _ rfl⟩
  · obtain ⟨reason, refused⟩ := refuses fun inside => noRoom ⟨fits, inside⟩
    exact ⟨given, reason, refused⟩

end Column

/-- An integer that a value stands for is what a field for integers holds, behind the tag if there
is one for integers, when it is one of the kinds of both; otherwise the error names the field. A
value that can stand for no integer is refused by every kind. -/
theorem assign_integer_or_refused (column : Column) (kind : IntegerKind)
    (typed : column.KeepsIntegers kind)
    (tags : ∀ tag, column.tag = some tag → ∃ wide, tag.family = .integer wide) :
    (∀ value number, value.StandsFor number →
      (column.HasRoomFor kind number → ∃ content : Integer kind, content.value = number ∧
        (column.convert value >>= column.assign) = .ok (.integer kind (some content))) ∧
      (¬ column.HasRoomFor kind number → ∃ refused reason,
        (column.convert value >>= column.assign) =
          .error (.conversion column.field refused reason))) ∧
      ∀ value, value.NoInteger →
        (ScalarType.integer kind).ofValue value =
          .error (.notConvertible value (.integer kind)) := by
  refine ⟨fun value number stands => ?_, fun value noInteger =>
    Conversion.integerOfValue_of_noInteger noInteger kind⟩
  cases tagged : column.tag with
  | none =>
    refine Column.assign_of_converted typed (convert_of_converts (.untagged tagged)) stands ?_
    intro tag wide found
    rw [tagged] at found
    cases found
  | some tag =>
    obtain ⟨wide, family⟩ := tags tag tagged
    have converts := Column.convert_eq_readInteger tagged family stands.isNull_eq_false
    obtain ⟨passes, refuses⟩ := column.readInteger_of_standsFor wide stands
    by_cases fits : wide.least ≤ number ∧ number ≤ wide.greatest
    · have passed := converts.trans (passes ⟨number, fits.1, fits.2⟩ rfl)
      refine Column.assign_of_converted typed passed (.integer _) ?_
      intro other otherWide found otherFamily
      cases tagged.symm.trans found
      cases family.symm.trans otherFamily
      exact fits
    · obtain ⟨reason, refused⟩ := refuses fits
      refine ⟨fun room => absurd (room.1 tag wide tagged family) fits, fun _ => ⟨value, reason, ?_⟩⟩
      rw [converts, refused]
      rfl

/-- A column whose tag is for greater numbers than its field. -/
def smallCounter : Column :=
  { field := "n", name := "n", tag := some .uInt16, type := some (.required (.integer .int8)) }

theorem assign_integer_or_refused_smallCounter :
    (∃ content : Integer .int8, content.value = 100 ∧
        (smallCounter.convert (.decimal (some ⟨false, 10000, 2, by decide, by decide⟩)) >>=
          smallCounter.assign) = .ok (.integer .int8 (some content))) ∧
      (∃ refused reason, (smallCounter.convert (.text (some " 300\n")) >>= smallCounter.assign) =
        .error (.conversion "n" refused reason)) ∧
      (∃ refused reason,
        (smallCounter.convert (.integer .int64 (some ⟨-1, by decide, by decide⟩)) >>=
          smallCounter.assign) = .error (.conversion "n" refused reason)) ∧
      (ScalarType.integer .int8).ofValue (.decimal (some ⟨false, 10050, 2, by decide, by decide⟩)) =
        .error (.notConvertible (.decimal (some ⟨false, 10050, 2, by decide, by decide⟩))
          (.integer .int8)) := by
  have tags : ∀ tag, smallCounter.tag = some tag → ∃ wide, tag.family = .integer wide := by
    rintro tag ⟨⟩
    exact ⟨.uint16, rfl⟩
  obtain ⟨decided, refused⟩ := assign_integer_or_refused smallCounter .int8 (.inl rfl) tags
  refine ⟨?_, ?_, ?_, refused _ (.fraction fun number equal => ?_)⟩
  · refine (decided _ 100 (.decimal rfl)).1 ⟨?_, by decide⟩
    rintro tag wide ⟨⟩ ⟨⟩
    decide
  · have stands : Value.StandsFor (.text (some " 300\n")) 300 :=
      @Value.StandsFor.text _ [' '] ['\n'] 300 rfl (List.forall_mem_singleton.mpr rfl)
        (List.forall_mem_singleton.mpr rfl)
    exact (decided _ 300 stands).2 fun room => absurd room.2 (by decide)
  · have stands : Value.StandsFor (.integer .int64 (some ⟨-1, by decide, by decide⟩)) (-1) :=
      .integer _
    exact (decided _ (-1) stands).2 fun room => absurd (room.1 _ _ rfl rfl) (by decide)
  · change (10050 : Int) = number * 10 ^ 2 at equal
    omega

end SqlRecords
