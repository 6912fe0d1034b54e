/-
This file says that a tag projects values onto those that its columns store. Whatever a tag accepts
becomes a value of the one type that belongs to the tag, and the values of that type are left as
they are, like the nulls. So converting twice is converting once.

The first half reads the type off the last step of a conversion, which makes a value of a content.
The second half goes by the types alone: a value that is not null and of the type of a family is
made of a content, and a content is taken back from its value.
-/

import SqlRecords.Proofs.Results
import SqlRecords.Proofs.Value.OwnType
import SqlRecords.Value.Tag

namespace SqlRecords

/-! ### The types that are stored -/

/-- The type of the values of a content. -/
def ScalarType.valueType : ScalarType → ValueType
  | boolean => .boolean
  | integer kind => .integer kind
  | floating precision => .floating precision
  | decimal => .decimal
  | text | character => .text
  | fixedBytes | bytes => .blob
  | date => .date
  | time => .time
  | timestamp => .timestamp
  | zoned => .zoned
  | uuid => .uuid

theorem ScalarType.type?_toValue (type : ScalarType) (content : type.Content) :
    (type.toValue content).type? = some type.valueType := by
  cases type <;> rfl

/-- The type of the values that the columns of a family store. Years are stored as their first
moments. -/
def TagFamily.storedType : TagFamily → ValueType
  | decimal => .decimal
  | integer kind => .integer kind
  | floating precision => .floating precision
  | time => .time
  | timestamp | year => .timestamp
  | blob => .blob
  | text => .text
  | uuid => .uuid

namespace ColumnTag

/-- The type of the values that the columns of a tag store. -/
def storedType : ColumnTag → ValueType
  | decimal | newDecimal => .decimal
  | bit | byte => .integer .int8
  | int16 => .integer .int16
  | int24 | int32 => .integer .int32
  | int64 => .integer .int64
  | uByte => .integer .uint8
  | uInt16 => .integer .uint16
  | uInt24 | uInt32 => .integer .uint32
  | uInt64 => .integer .uint64
  | float => .floating .single
  | double => .floating .double
  | time => .time
  | timestamp | date | dateTime | newDate | year => .timestamp
  | varString | string | varChar | binary | varBinary | tinyText | mediumText | longText | text =>
    .text
  | json | enum | set => .text
  | blob | tinyBlob | mediumBlob | longBlob | geometry => .blob
  | guid => .uuid

theorem storedType_family (tag : ColumnTag) : tag.family.storedType = tag.storedType := by
  cases tag <;> rfl

end ColumnTag

/-! ### What a conversion gives -/

namespace TagFamily

variable {family : TagFamily} {value converted : Value}

/-- What is converted through a type is a value of that type. -/
theorem stored_of_through {type : ScalarType}
    (accepted : Conversion.through type value = .ok converted) :
    converted.isNull = false ∧ converted.type? = some type.valueType := by
  obtain ⟨content, -, rfl⟩ := (map_eq_ok_iff _ _ _).mp accepted
  exact ⟨type.isNull_toValue content, type.type?_toValue content⟩

/-- What a family accepts becomes a value of its type. -/
theorem stored_of_convert (accepted : family.convert value = .ok converted) :
    converted.isNull = false ∧ converted.type? = some family.storedType := by
  cases family with
  | year | text =>
    obtain ⟨content, -, rfl⟩ := (map_eq_ok_iff _ _ _).mp accepted
    exact ⟨rfl, rfl⟩
  | _ => exact stored_of_through accepted

/-- A content is converted to itself. -/
theorem through_toValue (type : ScalarType) (content : type.Content) :
    Conversion.through type (type.toValue content) = .ok (type.toValue content) := by
  unfold Conversion.through
  rw [type.ofValue_toValue content]
  rfl

/-- A value of the type of a family is converted to itself. -/
theorem convert_of_stored (present : value.isNull = false)
    (stored : value.type? = some family.storedType) : family.convert value = .ok value := by
  cases value with
  | null => cases present
  | boolean | date | zoned => cases family <;> cases stored
  | integer kind content =>
    obtain ⟨number, rfl⟩ := Option.isSome_iff_exists.mp (Option.isNone_eq_false_iff.mp present)
    cases family <;> cases stored
    exact through_toValue (.integer kind) number
  | floating precision content =>
    obtain ⟨number, rfl⟩ := Option.isSome_iff_exists.mp (Option.isNone_eq_false_iff.mp present)
    cases family <;> cases stored
    exact through_toValue (.floating precision) number
  | decimal content | text content | blob content | time content | timestamp content
  | uuid content =>
    obtain ⟨content, rfl⟩ := Option.isSome_iff_exists.mp (Option.isNone_eq_false_iff.mp present)
    cases family <;> cases stored <;> rfl

end TagFamily

/-! ### Conversion by a tag -/

namespace ColumnTag

variable {tag : ColumnTag} {value converted : Value}

theorem convert_of_isNull (missing : value.isNull = true) : tag.convert value = .ok value :=
  if_pos missing

theorem convert_of_present (present : value.isNull = false) :
    tag.convert value = tag.family.convert value :=
  if_neg (ne_true_of_eq_false present)

theorem convert_of_stored (present : value.isNull = false)
    (stored : value.type? = some tag.storedType) : tag.convert value = .ok value := by
  rw [convert_of_present present]
  exact TagFamily.convert_of_stored present (tag.storedType_family ▸ stored)

/-- A tag returns a null unchanged. Any other value that it accepts becomes a value of the type
that its columns store, and converting that value again changes nothing. -/
theorem convert_projects (tag : ColumnTag) (value : Value) :
    (value.isNull = true → tag.convert value = .ok value) ∧
      (value.isNull = false → ∀ converted, tag.convert value = .ok converted →
        converted.isNull = false ∧ converted.type? = some tag.storedType ∧
          tag.convert converted = .ok converted) := by
  refine ⟨convert_of_isNull, fun present converted accepted => ?_⟩
  rw [convert_of_present present] at accepted
  obtain ⟨kept, stored⟩ := TagFamily.stored_of_convert accepted
  rw [tag.storedType_family] at stored
  exact ⟨kept, stored, convert_of_stored kept stored⟩

/-- A column of years makes a moment of the text of a number, and keeps the moment. -/
theorem convert_projects_year :
    year.convert (.text none) = .ok (.text none) ∧
      year.convert (.text (some " 1 ")) = .ok (.timestamp (some firstDate.midnight)) ∧
      year.convert (.timestamp (some firstDate.midnight)) =
        .ok (.timestamp (some firstDate.midnight)) := by
  have accepted : year.convert (.text (some " 1 ")) = .ok (.timestamp (some firstDate.midnight)) :=
    rfl
  have again := (convert_projects year (.text (some " 1 "))).2 rfl _ accepted
  exact ⟨(convert_projects year (.text none)).1 rfl, accepted, again.2.2⟩

end ColumnTag

end SqlRecords
