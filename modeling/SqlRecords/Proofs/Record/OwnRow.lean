/-
This file proves that a record is read back from its own row. The row of a record holds the
values of all its fields; building a record from that row gives every field what it had, whatever
the labels above the row say.

Without a tag a field takes back what it gave. A tag stands between the two, and changes the value
into one of its family. It keeps the contents of a field as long as nothing is lost on the way
there and back: a wider kind of integers for integers and truth values, bytes for texts, points of
time for dates. `TagFamily.keeps` lists these pairs of a family and a type.
-/

import SqlRecords.Proofs.Record.StoredRow
import SqlRecords.Proofs.Text.Utf8

namespace SqlRecords

open ScalarType (integerOf_of_inRange integerOf_value convert_self readCharacter_singleton)

/-! ### Tags that keep contents -/

/-- Whether values of a family keep every content of a type. -/
def TagFamily.keeps : TagFamily → ScalarType → Bool
  | integer wide, .integer kind =>
    decide (wide.least ≤ kind.least ∧ kind.greatest ≤ wide.greatest)
  | integer _, .boolean => true
  | floating precision, .floating own => decide (precision = own)
  | decimal, .decimal => true
  | text, .text | text, .character => true
  | blob, .text | blob, .fixedBytes | blob, .bytes => true
  | timestamp, .date | timestamp, .timestamp | year, .date | year, .timestamp => true
  | time, .time => true
  | uuid, .uuid => true
  | _, _ => false

/-- The type of what a field holds unless it is null. -/
def FieldType.scalar : FieldType → ScalarType
  | required type | optional type => type

/-- Whether the tag of a column, if it has one, keeps every content of the field. -/
def Column.keepsContents (column : Column) : Bool :=
  match column.tag, column.type with
  | none, _ => true
  | some tag, some type => tag.family.keeps type.scalar
  | some _, none => false

/-! ### Through a tag and back -/

/-- A truth value is zero or one in every kind of integers. -/
theorem exists_integerOf_boolean (kind : IntegerKind) (content : Bool) :
    ∃ number : Integer kind, Conversion.integerOf kind (if content then 1 else 0) = .ok number ∧
      (number.value != 0) = content := by
  have least : ∀ number : Int, 0 ≤ number → kind.least ≤ number := by
    intro number positive
    exact Int.le_trans (by cases kind <;> decide) positive
  have greatest : ∀ number : Int, number ≤ 1 → number ≤ kind.greatest := by
    intro number small
    exact Int.le_trans small (by cases kind <;> decide)
  cases content with
  | false => exact ⟨_, integerOf_of_inRange (least 0 (by decide)) (greatest 0 (by decide)), rfl⟩
  | true => exact ⟨_, integerOf_of_inRange (least 1 (by decide)) (greatest 1 (by decide)), rfl⟩

/-- A family that keeps the contents of a type has a value for each of them that denotes it. -/
theorem exists_convert_toValue (family : TagFamily) (type : ScalarType)
    (keeps : family.keeps type = true) (content : type.Content) :
    ∃ converted, family.convert (type.toValue content) = .ok converted ∧
      converted.isNull = false ∧ type.ofValue converted = .ok content := by
  revert content keeps
  fun_cases TagFamily.keeps family type
  -- integers of a wider kind
  case case1 wide kind =>
    intro wider content
    obtain ⟨least, greatest⟩ := of_decide_eq_true wider
    have fits := integerOf_of_inRange (Int.le_trans least content.least_le)
      (Int.le_trans content.le_greatest greatest)
    exact ⟨_, congrArg (Except.map _) fits, rfl, integerOf_value content⟩
  -- truth values as integers
  case case2 kind =>
    intro _ content
    obtain ⟨number, converted, kept⟩ := exists_integerOf_boolean kind content
    exact ⟨_, congrArg (Except.map _) converted, rfl, congrArg Except.ok kept⟩
  case case3 precision own =>
    intro same content
    cases of_decide_eq_true same
    refine ⟨.floating precision (some content), ?_, rfl, ?_⟩
    · exact congrArg (fun number => Except.ok (Value.floating precision (some number)))
        (convert_self content)
    · exact congrArg Except.ok (convert_self content)
  -- a character comes back from the text that it makes up
  case case6 =>
    intro _ content
    exact ⟨_, rfl, rfl, readCharacter_singleton content⟩
  -- a text comes back from its bytes
  case case7 =>
    intro _ content
    refine ⟨_, rfl, rfl, ?_⟩
    exact congrArg (Except.mapError _) (Text.decodeUtf8_encodeUtf8 content)
  case case16 =>
    intro keeps
    cases keeps
  all_goals exact fun _ content => ⟨_, rfl, rfl, rfl⟩

/-! ### Fields -/

namespace FieldType

/-- What a field holds when it holds a content of its type. -/
def holding : (type : FieldType) → type.scalar.Content → type.Content
  | required _, content => content
  | optional _, content => some content

theorem toValue_holding (type : FieldType) (content : type.scalar.Content) :
    type.toValue (type.holding content) = type.scalar.toValue content := by
  cases type <;> rfl

/-- A field holds a content of its type or gives a null. -/
theorem exists_eq_holding (type : FieldType) (content : type.Content)
    (present : (type.toValue content).isNull = false) : ∃ inner, content = type.holding inner := by
  cases type with
  | required type => exact ⟨content, rfl⟩
  | optional type =>
    cases content with
    | some inner => exact ⟨inner, rfl⟩
    | none =>
      have null := type.isNull_emptyValue
      exact absurd (present.symm.trans null) Bool.false_ne_true

theorem ofCell_of_ofValue (type : FieldType) {value : Value} {content : type.scalar.Content}
    (present : value.isNull = false) (read : type.scalar.ofValue value = .ok content) :
    type.ofCell value = .ok (type.holding content) := by
  unfold ofCell
  rw [present, if_neg Bool.false_ne_true]
  cases type with
  | required type => exact read
  | optional type =>
    have inner : type.ofValue value = .ok content := read
    show (if value.isNull then _ else (type.ofValue value).map some) = _
    rw [present, if_neg Bool.false_ne_true, inner]
    rfl

end FieldType

/-- A value of the own type of a field passes a tag that keeps it, and is what the field holds
then. -/
theorem exists_convert_of_keepsContents (column : Column) (keeps : column.keepsContents = true)
    (value : Value) (own : column.Owns value) :
    ∃ converted, column.convert value = .ok converted ∧ column.assign converted = .ok value := by
  have unchanged : column.convert value = .ok value →
      ∃ converted, column.convert value = .ok converted ∧ column.assign converted = .ok value :=
    fun same => ⟨value, same, assign_of_owns column value own⟩
  unfold Column.keepsContents at keeps
  cases tagged : column.tag with
  | none => exact unchanged (by rw [Column.convert, tagged])
  | some tag =>
    have convert_eq : column.convert value =
        (tag.convert value).mapError (.ofField column.field value) := by
      rw [Column.convert, tagged]
    cases null : value.isNull with
    | true =>
      refine unchanged ?_
      rw [convert_eq, ColumnTag.convert, null, if_pos rfl]
      rfl
    | false =>
      cases typed : column.type with
      | none =>
        rw [tagged, typed] at keeps
        cases keeps
      | some type =>
        rw [tagged, typed] at keeps
        obtain ⟨content, rfl⟩ := own type typed
        obtain ⟨inner, rfl⟩ := type.exists_eq_holding content null
        obtain ⟨converted, passes, present, read⟩ :=
          exists_convert_toValue tag.family type.scalar keeps inner
        refine ⟨converted, ?_, ?_⟩
        · rw [convert_eq, ColumnTag.convert, null, if_neg Bool.false_ne_true,
            type.toValue_holding inner, passes]
          rfl
        · unfold Column.assign FieldType.assign
          rw [typed]
          dsimp only
          rw [type.ofCell_of_ofValue present read]
          rfl

/-! ### Records -/

theorem exists_mapM_convert {columns : List Column} {record : List Value}
    (keeps : ∀ column ∈ columns, column.keepsContents = true)
    (own : List.Forall₂ Column.Owns columns record) :
    ∃ converted, converted.length = columns.length ∧
      (columns.zip record).mapM (fun cell => cell.1.convert cell.2) = .ok converted ∧
      (columns.zip converted).mapM (fun cell => cell.1.assign cell.2) = .ok record := by
  induction own with
  | nil => exact ⟨[], rfl, List.mapM_nil, List.mapM_nil⟩
  | @cons column value columns record owns _ inductionHypothesis =>
    obtain ⟨first, further⟩ := List.forall_mem_cons.mp keeps
    obtain ⟨converted, passes, assigned⟩ :=
      exists_convert_of_keepsContents column first value owns
    obtain ⟨others, size, othersPass, othersAssigned⟩ := inductionHypothesis further
    refine ⟨converted :: others, congrArg Nat.succ size, ?_, ?_⟩
    · rw [List.zip_cons_cons, List.mapM_cons, passes, othersPass]
      rfl
    · rw [List.zip_cons_cons, List.mapM_cons, assigned, othersAssigned]
      rfl

/-- A record is read back from its own row with every field as it was, nulls and the patterns of
floating point numbers included, whatever labels stand above the row, as long as the tags keep the
contents of their fields. -/
theorem materialize_ownRow (table : Table)
    (keeps : ∀ column ∈ table.columns, column.keepsContents = true) (record : List Value)
    (own : List.Forall₂ Column.Owns table.columns record) (labels : List String) :
    table.materialize ⟨labels, record⟩ = .ok record := by
  obtain ⟨converted, size, passes, assigned⟩ := exists_mapM_convert keeps own
  unfold Table.materialize
  rw [fit_of_length table record own.length_eq.symm, passes]
  show table.build converted = _
  rw [Table.build, fit_of_length table converted size, assigned]

/-- A table whose tags all give values of other types than the fields have. -/
def retaggedTable : Table where
  name := "T"
  columns :=
    [{ field := "id", name := "id", tag := some .int64, type := some (.required (.integer .int32)) },
      { field := "flag", name := "flag", tag := some .bit, type := some (.required .boolean) },
      { field := "note", name := "note", tag := some .longBlob, type := some (.optional .text) },
      { field := "day", name := "day", tag := some .year, type := some (.required .date) }]

theorem materialize_ownRow_retagged :
    (∀ column ∈ retaggedTable.columns, column.keepsContents = true) ∧
      List.Forall₂ Column.Owns retaggedTable.columns
        [.integer .int32 (some ⟨-5, by decide, by decide⟩), .boolean (some true), .text none,
          .date (some firstDate)] ∧
      retaggedTable.materialize ⟨["day", "id"],
          [.integer .int32 (some ⟨-5, by decide, by decide⟩), .boolean (some true), .text none,
            .date (some firstDate)]⟩ =
        .ok [.integer .int32 (some ⟨-5, by decide, by decide⟩), .boolean (some true), .text none,
          .date (some firstDate)] := by
  have keeps : ∀ column ∈ retaggedTable.columns, column.keepsContents = true := by decide
  have own : List.Forall₂ Column.Owns retaggedTable.columns
      [.integer .int32 (some ⟨-5, by decide, by decide⟩), .boolean (some true), .text none,
        .date (some firstDate)] :=
    .cons (fun type typed => by cases typed; exact ⟨⟨-5, by decide, by decide⟩, rfl⟩)
      (.cons (fun type typed => by cases typed; exact ⟨true, rfl⟩)
        (.cons (fun type typed => by cases typed; exact ⟨none, rfl⟩)
          (.cons (fun type typed => by cases typed; exact ⟨firstDate, rfl⟩) .nil)))
  exact ⟨keeps, own, materialize_ownRow retaggedTable keeps _ own _⟩

end SqlRecords
