/-
This file proves that a field takes back what it gave. The value of a content, read into a field
of the same type, is that content again, for every type and whether the field is optional or
not; no range check, rounding or reading of text stands in the way.

It also says which fields can do without a value: a null is refused by dates and times that are
not optional, and by nothing else.
-/

import SqlRecords.Proofs.Number.IntegerText
import SqlRecords.Value.Conversion

namespace SqlRecords

/-! ### Contents and their values -/

namespace ScalarType

theorem isNull_toValue (type : ScalarType) (content : type.Content) :
    (type.toValue content).isNull = false := by
  cases type <;> rfl

theorem isNull_emptyValue (type : ScalarType) : type.emptyValue.isNull = true := by
  cases type <;> rfl

/-- A number in the range of a kind is an integer of that kind. -/
theorem integerOf_of_inRange {kind : IntegerKind} {number : Int} (least_le : kind.least ≤ number)
    (le_greatest : number ≤ kind.greatest) :
    Conversion.integerOf kind number = .ok ⟨number, least_le, le_greatest⟩ := by
  unfold Conversion.integerOf
  rw [Integer.ofInt?_of_inRange least_le le_greatest]

theorem integerOf_value {kind : IntegerKind} (number : Integer kind) :
    Conversion.integerOf kind number.value = .ok number :=
  integerOf_of_inRange number.least_le number.le_greatest

/-- A number in its own precision is not rounded. -/
theorem convert_self {precision : Precision} (number : Floating precision) :
    number.convert precision = number := by
  unfold Floating.convert
  rw [dif_pos rfl]

theorem readCharacter_singleton (character : Char) :
    Conversion.readCharacter (String.singleton character) = .ok character := by
  unfold Conversion.readCharacter
  rw [String.toList_singleton]

/-- The value of a content denotes that content. -/
theorem ofValue_toValue (type : ScalarType) (content : type.Content) :
    type.ofValue (type.toValue content) = .ok content := by
  cases type with
  | integer kind => exact integerOf_value content
  | floating precision => exact congrArg Except.ok (convert_self content)
  | character => exact readCharacter_singleton content
  | _ => rfl

end ScalarType

namespace FieldType

/-- A field takes the content back that a value was made of. -/
theorem ofCell_toValue (type : FieldType) (content : type.Content) :
    type.ofCell (type.toValue content) = .ok content := by
  unfold ofCell
  cases type with
  | required type =>
    show (if (type.toValue content).isNull then type.ofNull else type.ofValue _) = _
    rw [type.isNull_toValue content, if_neg Bool.false_ne_true]
    exact type.ofValue_toValue content
  | optional type =>
    cases content with
    | none =>
      show (if type.emptyValue.isNull then _ else _) = _
      rw [type.isNull_emptyValue, if_pos rfl]
      rfl
    | some content =>
      show (if (type.toValue content).isNull then _ else ofValue (.optional type) _) = _
      rw [type.isNull_toValue content, if_neg Bool.false_ne_true]
      show (if (type.toValue content).isNull then _ else (type.ofValue (type.toValue content)).map
        some) = _
      rw [type.isNull_toValue content, if_neg Bool.false_ne_true, type.ofValue_toValue content]
      rfl

/-! ### Fields without a value -/

/-- Whether a field refuses a null: dates and times that are not optional do. -/
def refusesNull : FieldType → Bool
  | required .date | required .time | required .timestamp | required .zoned => true
  | _ => false

theorem ofNull_of_refusesNull (type : FieldType) (refuses : type.refusesNull = true)
    (content : type.Content) : type.ofNull ≠ .ok content := by
  cases type with
  | optional type => exact absurd refuses Bool.false_ne_true
  | required type =>
    cases type
    case date | time | timestamp | zoned => exact fun equal => nomatch equal
    all_goals exact absurd refuses Bool.false_ne_true

theorem exists_ofNull (type : FieldType) (accepts : type.refusesNull = false) :
    ∃ content, type.ofNull = .ok content := by
  cases type with
  | optional type => exact ⟨none, rfl⟩
  | required type =>
    cases type
    case date | time | timestamp | zoned => exact absurd accepts.symm Bool.false_ne_true
    all_goals exact ⟨_, rfl⟩

end FieldType

/-! ### Contents that a null does not give -/

/-- The first day of the year 1. -/
def firstDate : Date :=
  ⟨1, 1, 1, by decide, by decide, by decide, by decide, by decide, by decide⟩

/-- A content of a type, other than the one that a null gives. -/
def ScalarType.sample : (type : ScalarType) → type.Content
  | boolean => true
  | integer kind => ⟨1, by cases kind <;> decide, by cases kind <;> decide⟩
  | floating precision => .infinity precision false
  | decimal => { Decimal.zero with mantissa := 1, mantissa_lt := by decide }
  | text => "x"
  | character => 'x'
  | fixedBytes | bytes => [0]
  | date => firstDate
  | time => .midnight
  | timestamp => firstDate.midnight
  | zoned => .universal firstDate.midnight
  | uuid => ⟨List.replicate 16 1, rfl⟩

namespace FieldType

/-- A content of a field, other than the one that a null gives. -/
def sample : (type : FieldType) → type.Content
  | required type => type.sample
  | optional type => some type.sample

theorem toValue_ofNull_ne_sample (type : FieldType) (content : type.Content)
    (given : type.ofNull = .ok content) : type.toValue content ≠ type.toValue type.sample := by
  cases type with
  | optional type =>
    cases given
    cases type <;> exact fun equal => nomatch equal
  | required type =>
    cases type with
    | integer kind =>
      cases given
      cases kind <;> decide
    | floating precision =>
      cases given
      cases precision <;> decide
    | date | time | timestamp | zoned => cases given
    | _ =>
      cases given
      decide

end FieldType

end SqlRecords
