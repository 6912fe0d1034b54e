/-
This file says when a record that was stored is read back from its row. An INSERT writes the
values of the mapped columns and nothing for the others, and a row of the table holds just
those; a record is built from such a row by position among all its columns.

The two agree exactly if every column that is not mapped stands behind the mapped ones. Such
columns then find no value in the row, and their fields have to do with a null, which dates and
times cannot unless they are optional.
-/

import SqlRecords.Proofs.Sql.Separated
import SqlRecords.Proofs.Value.OwnType
import SqlRecords.Record
import SqlRecords.Sql.Modify

namespace SqlRecords

/-! ### Stored rows -/

/-- The cells of a record that are stored, in the order of the columns. -/
def storedCells (columns : List Column) (record : List Value) : List (Column × Value) :=
  (columns.zip record).filter (·.1.mapped)

/-- The row that a record is stored as. -/
def Table.storedRow (table : Table) (record : List Value) : List Value :=
  (storedCells table.columns record).map Prod.snd

/-- Whether a value is one of the own type of the field of a column. A field without a type
holds any value. -/
def Column.Owns (column : Column) (value : Value) : Prop :=
  ∀ type, column.type = some type → ∃ content, value = type.toValue content

/-- Whether a field can do without a value. -/
def Column.acceptsNull (column : Column) : Bool :=
  match column.type with
  | some type => !type.refusesNull
  | none => true

/-- Whether the columns that are not mapped stand behind all that are. -/
def MapsFirst (columns : List Column) : Prop :=
  columns.Pairwise fun earlier later => later.mapped = true → earlier.mapped = true

/-- Whether a result has the values of a record in all mapped columns. -/
def KeepsMapped (columns : List Column) (record result : List Value) : Prop :=
  ∀ (position : Nat) (column : Column), columns[position]? = some column → column.mapped = true →
    result[position]? = record[position]?

/-! ### What an INSERT writes -/

/-- Items that are written as nothing at all leave no trace, not even a separator. -/
theorem separatedFrom_filter {Failure Item : Type} (writeItem : Item → TextWriter Failure Unit)
    (separator : String) (kept : Item → Bool)
    (silent : ∀ item, kept item = false → writeItem item = pure ()) (separate : Bool)
    (items : List Item) :
    TextWriter.separatedFrom writeItem separator separate items =
      TextWriter.separatedFrom writeItem separator separate (items.filter kept) := by
  induction items generalizing separate with
  | nil => rfl
  | cons item rest inductionHypothesis =>
    cases keep : kept item with
    | true =>
      rw [List.filter_cons_of_pos keep, TextWriter.separatedFrom, TextWriter.separatedFrom]
      simp only [inductionHypothesis]
    | false =>
      rw [List.filter_cons_of_neg (by rw [keep]; exact Bool.false_ne_true),
        ← inductionHypothesis]
      funext before
      have written : (writeItem item).run.run (before ++ if separate then separator else "") =
          (.ok (), before ++ (if separate then separator else "") ++ "") := by
        rw [silent item keep, String.append_empty]
        rfl
      exact (TextWriter.run_separatedFrom_of_ok separator separate rest written).trans (if_pos rfl)

/-- The tuple of an INSERT is that of the stored cells. -/
theorem writeTuple_eq (dialect : Dialect) (table : Table) (record : List Value) :
    dialect.writeTuple table record = (do
      TextWriter.write "("
      TextWriter.separated (dialect.writeInserted ⟨.insertIntoValues, some table⟩) ","
        (storedCells table.columns record)
      TextWriter.write ")") := by
  unfold Dialect.writeTuple TextWriter.separated storedCells
  rw [separatedFrom_filter _ "," (·.1.mapped) _ false (table.columns.zip record)]
  intro cell unmapped
  unfold Dialect.writeInserted
  rw [unmapped]
  rfl

/-! ### Building without tags -/

theorem zip_take_length {First Second : Type} (firsts : List First) (seconds : List Second) :
    firsts.zip (seconds.take firsts.length) = firsts.zip seconds := by
  induction firsts generalizing seconds with
  | nil => rfl
  | cons first firsts inductionHypothesis =>
    cases seconds with
    | nil => rfl
    | cons second seconds =>
      rw [List.length_cons, List.take_succ_cons, List.zip_cons_cons, List.zip_cons_cons,
        inductionHypothesis]

theorem length_fit (table : Table) (values : List Value) :
    (table.fit values).length = table.columns.length := by
  unfold Table.fit
  rw [List.length_take, List.length_append, List.length_replicate]
  omega

theorem fit_of_length (table : Table) (values : List Value)
    (size : values.length = table.columns.length) : table.fit values = values := by
  unfold Table.fit
  rw [← size, List.take_left]

/-- Without tags a record is built from the values of a row as they are, with nulls behind
them. -/
theorem materialize_of_untagged (table : Table)
    (untagged : ∀ column ∈ table.columns, column.tag = none) (labels : List String)
    (values : List Value) :
    table.materialize ⟨labels, values⟩ =
      (table.columns.zip (values ++ List.replicate table.columns.length .null)).mapM fun cell =>
        cell.1.assign cell.2 := by
  have same : (table.columns.zip (table.fit values)).map Prod.snd = table.fit values :=
    List.map_snd_zip (Nat.le_of_eq (length_fit table values))
  have converted : (table.columns.zip (table.fit values)).mapM
      (fun cell => cell.1.convert cell.2) = .ok (table.fit values) := by
    refine Eq.trans ((mapM_eq_ok_iff _ _ _).mpr ?_) (congrArg _ same)
    rw [List.forall₂_map_right_iff, List.forall₂_same]
    rintro ⟨column, value⟩ member
    unfold Column.convert
    rw [untagged column (List.of_mem_zip member).1]
  unfold Table.materialize
  rw [converted]
  show table.build (table.fit values) = _
  unfold Table.build
  rw [fit_of_length table _ (length_fit table values), Table.fit, zip_take_length]

/-! ### Fields and their own values -/

/-- A field takes a value of its own type as it is. -/
theorem assign_of_owns (column : Column) (value : Value) (own : column.Owns value) :
    column.assign value = .ok value := by
  unfold Column.assign
  cases typed : column.type with
  | none => rfl
  | some type =>
    obtain ⟨content, rfl⟩ := own type typed
    show ((type.ofCell (type.toValue content)).mapError _).map type.toValue = _
    rw [type.ofCell_toValue content]
    rfl

/-- A value of the own type of a field, other than what a null gives. -/
def Column.sample (column : Column) : Value :=
  match column.type with
  | some type => type.toValue type.sample
  | none => .boolean (some true)

theorem owns_sample (column : Column) : column.Owns column.sample := by
  intro type typed
  exact ⟨type.sample, by rw [Column.sample, typed]⟩

theorem assign_null_of_type (column : Column) (type : FieldType) (typed : column.type = some type) :
    column.assign .null =
      (type.ofNull.mapError (.ofField column.field .null)).map type.toValue := by
  unfold Column.assign
  rw [typed]
  rfl

theorem assign_null_ne_sample (column : Column) : column.assign .null ≠ .ok column.sample := by
  cases typed : column.type with
  | none =>
    unfold Column.assign Column.sample
    rw [typed]
    exact fun equal => nomatch equal
  | some type =>
    rw [assign_null_of_type column type typed, Column.sample, typed]
    cases given : type.ofNull with
    | error reason => exact fun equal => nomatch equal
    | ok content =>
      exact fun equal => type.toValue_ofNull_ne_sample content given (Except.ok.inj equal)

/-- A field can be given a null exactly if it accepts one. -/
theorem acceptsNull_iff (column : Column) :
    column.acceptsNull = true ↔ ∃ value, column.assign .null = .ok value := by
  cases typed : column.type with
  | none =>
    unfold Column.acceptsNull Column.assign
    rw [typed]
    exact ⟨fun _ => ⟨.null, rfl⟩, fun _ => rfl⟩
  | some type =>
    rw [assign_null_of_type column type typed]
    unfold Column.acceptsNull
    rw [typed, Bool.not_eq_true']
    constructor
    · intro accepts
      obtain ⟨content, given⟩ := type.exists_ofNull accepts
      exact ⟨type.toValue content, by rw [given]; rfl⟩
    · rintro ⟨value, assigned⟩
      obtain ⟨content, accepted, -⟩ := (map_eq_ok_iff _ _ _).mp assigned
      cases refuses : type.refusesNull with
      | false => rfl
      | true =>
        cases given : type.ofNull with
        | error reason => rw [given] at accepted; cases accepted
        | ok content => exact absurd given (type.ofNull_of_refusesNull refuses content)

/-! ### Mapped columns first -/

theorem storedCells_cons_mapped (column : Column) (columns : List Column) (value : Value)
    (record : List Value) (mapped : column.mapped = true) :
    storedCells (column :: columns) (value :: record) =
      (column, value) :: storedCells columns record :=
  List.filter_cons_of_pos mapped

theorem storedCells_of_unmapped (columns : List Column) (record : List Value)
    (unmapped : ∀ column ∈ columns, column.mapped = false) : storedCells columns record = [] := by
  unfold storedCells
  rw [List.filter_eq_nil_iff]
  rintro ⟨column, value⟩ member
  rw [unmapped column (List.of_mem_zip member).1]
  exact Bool.false_ne_true

theorem length_storedCells (columns : List Column) (record : List Value)
    (size : columns.length = record.length) :
    (storedCells columns record).length = columns.countP (·.mapped) := by
  have same : (columns.zip record).map Prod.fst = columns :=
    List.map_fst_zip (Nat.le_of_eq size)
  rw [storedCells, ← List.countP_eq_length_filter]
  show (columns.zip record).countP ((·.mapped) ∘ Prod.fst) = _
  rw [← List.countP_map, same]

/-- The last mapped column stands at a position that leaves room for all mapped columns. -/
theorem exists_mapped_position (columns : List Column) (some : 0 < columns.countP (·.mapped)) :
    ∃ position column, columns[position]? = Option.some column ∧ column.mapped = true ∧
      columns.countP (·.mapped) ≤ position + 1 := by
  induction columns with
  | nil => cases some
  | cons column columns inductionHypothesis =>
    by_cases further : 0 < columns.countP (·.mapped)
    · obtain ⟨position, last, found, mapped, room⟩ := inductionHypothesis further
      refine ⟨position + 1, last, found, mapped, ?_⟩
      rw [List.countP_cons]
      split <;> omega
    · have none : columns.countP (·.mapped) = 0 := Nat.eq_zero_of_not_pos further
      rw [List.countP_cons, none] at some
      cases mapped : column.mapped with
      | false => rw [mapped] at some; cases some
      | true =>
        refine ⟨0, column, rfl, mapped, ?_⟩
        rw [List.countP_cons, none, mapped]
        exact Nat.le_refl _

/-- The mapped columns stand first if they all find a value in a row of that many. -/
theorem mapsFirst_of_positions (columns : List Column)
    (inside : ∀ (position : Nat) (column : Column), columns[position]? = some column →
      column.mapped = true → position < columns.countP (·.mapped)) : MapsFirst columns := by
  induction columns with
  | nil => exact List.Pairwise.nil
  | cons column columns inductionHypothesis =>
    cases mapped : column.mapped with
    | true =>
      refine List.Pairwise.cons (fun _ _ _ => mapped) (inductionHypothesis ?_)
      intro position other found otherMapped
      have room := inside (position + 1) other found otherMapped
      rw [List.countP_cons, mapped, if_pos rfl] at room
      omega
    | false =>
      have none : columns.countP (·.mapped) = 0 := by
        refine Nat.eq_zero_of_not_pos fun further => ?_
        obtain ⟨position, last, found, lastMapped, room⟩ := exists_mapped_position columns further
        have before := inside (position + 1) last found lastMapped
        rw [List.countP_cons, mapped, if_neg Bool.false_ne_true] at before
        omega
      have unmapped := List.countP_eq_zero.mp none
      refine List.Pairwise.cons (fun other member otherMapped => ?_)
        (inductionHypothesis fun position other found otherMapped => ?_)
      · exact absurd otherMapped (unmapped other member)
      · exact absurd otherMapped (unmapped other (List.mem_of_getElem? found))

theorem countP_le_of_mapsFirst {columns : List Column} (mapsFirst : MapsFirst columns)
    {position : Nat} {column : Column} (found : columns[position]? = some column)
    (unmapped : column.mapped = false) : columns.countP (·.mapped) ≤ position := by
  induction columns generalizing position with
  | nil => cases found
  | cons first columns inductionHypothesis =>
    obtain ⟨before, rest⟩ := List.pairwise_cons.mp mapsFirst
    rw [List.countP_cons]
    cases mapped : first.mapped with
    | false =>
      have none : columns.countP (·.mapped) = 0 :=
        List.countP_eq_zero.mpr fun other member otherMapped => by
          rw [before other member otherMapped] at mapped
          cases mapped
      rw [none]
      exact Nat.zero_le _
    | true =>
      cases position with
      | zero =>
        cases found
        rw [mapped] at unmapped
        cases unmapped
      | succ position => exact Nat.succ_le_succ (inductionHypothesis rest found)

/-! ### Reading stored rows back -/

theorem keepsMapped_cons {column : Column} {columns : List Column} {value read : Value}
    {record result : List Value} (first : column.mapped = true → read = value)
    (rest : KeepsMapped columns record result) :
    KeepsMapped (column :: columns) (value :: record) (read :: result) := by
  intro position other found mapped
  cases position with
  | zero =>
    cases found
    rw [List.getElem?_cons_zero, List.getElem?_cons_zero, first mapped]
  | succ position => exact rest position other found mapped

/-- Where the mapped columns stand first, every field takes the value stored for it, and the
fields behind them take nulls. -/
theorem exists_assign_storedCells {columns : List Column} {record : List Value}
    (own : List.Forall₂ Column.Owns columns record) (mapsFirst : MapsFirst columns)
    (accepts : ∀ column ∈ columns, column.mapped = false → column.acceptsNull = true)
    (missing : Nat) (enough : columns.length ≤ missing) :
    ∃ result, List.Forall₂ (fun cell value => cell.1.assign cell.2 = .ok value)
        (columns.zip ((storedCells columns record).map Prod.snd ++
          List.replicate missing .null)) result ∧
      KeepsMapped columns record result := by
  induction own generalizing missing with
  | nil => exact ⟨[], .nil, fun _ _ found => nomatch found⟩
  | @cons column value columns record first rest inductionHypothesis =>
    obtain ⟨before, mapsFirstRest⟩ := List.pairwise_cons.mp mapsFirst
    have acceptsRest : ∀ other ∈ columns, other.mapped = false → other.acceptsNull = true :=
      fun other member => accepts other (List.mem_cons_of_mem _ member)
    rw [List.length_cons] at enough
    cases mapped : column.mapped with
    | true =>
      obtain ⟨result, assigned, keeps⟩ := inductionHypothesis mapsFirstRest acceptsRest missing
        (Nat.le_of_succ_le enough)
      refine ⟨value :: result, ?_, keepsMapped_cons (fun _ => rfl) keeps⟩
      rw [storedCells_cons_mapped column columns value record mapped, List.map_cons,
        List.cons_append, List.zip_cons_cons]
      exact .cons (assign_of_owns column value first) assigned
    | false =>
      -- nothing is stored from here on
      have unmapped : ∀ other ∈ columns, other.mapped = false := by
        intro other member
        cases otherMapped : other.mapped with
        | false => rfl
        | true => rw [before other member otherMapped] at mapped; cases mapped
      obtain ⟨less, rfl⟩ : ∃ less, missing = less + 1 := ⟨missing - 1, by omega⟩
      obtain ⟨result, assigned, keeps⟩ := inductionHypothesis mapsFirstRest acceptsRest less
        (Nat.le_of_succ_le_succ enough)
      obtain ⟨read, given⟩ :=
        (acceptsNull_iff column).mp (accepts column List.mem_cons_self mapped)
      refine ⟨read :: result, ?_, keepsMapped_cons (fun isMapped => ?_) keeps⟩
      · rw [storedCells_of_unmapped columns record unmapped] at assigned
        rw [storedCells_of_unmapped (column :: columns) (value :: record)
          (List.forall_mem_cons.mpr ⟨mapped, unmapped⟩)]
        exact .cons given assigned
      · rw [mapped] at isMapped
        cases isMapped

/-- A column behind the stored values is given a null. -/
theorem assign_null_of_behind {columns : List Column} {stored result : List Value}
    (assigned : List.Forall₂ (fun cell value => cell.1.assign cell.2 = .ok value)
      (columns.zip (stored ++ List.replicate columns.length .null)) result)
    {position : Nat} {column : Column} (found : columns[position]? = some column)
    (behind : stored.length ≤ position) :
    ∃ value, result[position]? = some value ∧ column.assign .null = .ok value := by
  obtain ⟨inside, -⟩ := List.getElem?_eq_some_iff.mp found
  have cell : (columns.zip (stored ++ List.replicate columns.length Value.null))[position]? =
      some (column, .null) := by
    rw [List.getElem?_zip_eq_some]
    refine ⟨found, ?_⟩
    rw [List.getElem?_append_right behind, List.getElem?_replicate, if_pos (by omega)]
  exact exists_getElem?_of_forall₂ assigned cell

/-- An INSERT writes the stored cells of a record and nothing else, and the row of those values
is read back with every stored field as it was, for all records whose fields have values of
their own types, exactly if the columns that are not mapped stand behind all mapped ones and
can do without a value. No column is supposed to have a tag. -/
theorem materialize_storedRow_iff (table : Table)
    (untagged : ∀ column ∈ table.columns, column.tag = none) :
    (∀ (dialect : Dialect) (record : List Value),
      dialect.writeTuple table record = (do
        TextWriter.write "("
        TextWriter.separated (dialect.writeInserted ⟨.insertIntoValues, some table⟩) ","
          (storedCells table.columns record)
        TextWriter.write ")")) ∧
    ((∀ record, List.Forall₂ Column.Owns table.columns record → ∀ labels,
        ∃ result, table.materialize ⟨labels, table.storedRow record⟩ = .ok result ∧
          KeepsMapped table.columns record result) ↔
      MapsFirst table.columns ∧
        ∀ column ∈ table.columns, column.mapped = false → column.acceptsNull = true) := by
  refine ⟨fun dialect record => writeTuple_eq dialect table record, ?_, ?_⟩
  · intro readBack
    have own : List.Forall₂ Column.Owns table.columns (table.columns.map Column.sample) := by
      rw [List.forall₂_map_right_iff, List.forall₂_same]
      exact fun column _ => owns_sample column
    obtain ⟨result, built, keeps⟩ := readBack _ own []
    rw [materialize_of_untagged table untagged, mapM_eq_ok_iff] at built
    have size : (table.storedRow (table.columns.map Column.sample)).length =
        table.columns.countP (·.mapped) := by
      rw [Table.storedRow, List.length_map, length_storedCells _ _ own.length_eq]
    have mapsFirst : MapsFirst table.columns := by
      refine mapsFirst_of_positions _ fun position column found mapped => ?_
      by_contra behind
      obtain ⟨value, read, given⟩ :=
        assign_null_of_behind built found (by rw [size]; exact Nat.le_of_not_lt behind)
      rw [keeps position column found mapped, List.getElem?_map, found] at read
      exact assign_null_ne_sample column (given.trans (congrArg _ (Option.some.inj read).symm))
    refine ⟨mapsFirst, fun column member unmapped => ?_⟩
    obtain ⟨position, found⟩ := List.mem_iff_getElem?.mp member
    obtain ⟨value, -, given⟩ := assign_null_of_behind built found (by
      rw [size]
      exact countP_le_of_mapsFirst mapsFirst found unmapped)
    exact (acceptsNull_iff column).mpr ⟨value, given⟩
  · rintro ⟨mapsFirst, accepts⟩ record own labels
    obtain ⟨result, assigned, keeps⟩ :=
      exists_assign_storedCells own mapsFirst accepts _ (Nat.le_refl _)
    refine ⟨result, ?_, keeps⟩
    rw [materialize_of_untagged table untagged, mapM_eq_ok_iff]
    exact assigned

/-- A table whose last field is not stored. -/
def skippedLast : Table where
  name := "T"
  columns :=
    [{ field := "name", name := "name", type := some (.required .text) },
      { field := "cache", name := "cache", mapped := false, type := some (.required .text) }]

theorem materialize_storedRow_skippedLast :
    (∀ column ∈ skippedLast.columns, column.tag = none) ∧
      ∃ result, skippedLast.materialize ⟨["name"],
          skippedLast.storedRow [.text (some "Bob"), .text (some "seen")]⟩ = .ok result ∧
        KeepsMapped skippedLast.columns [.text (some "Bob"), .text (some "seen")] result := by
  have untagged : ∀ column ∈ skippedLast.columns, column.tag = none := by decide
  have own : List.Forall₂ Column.Owns skippedLast.columns
      [.text (some "Bob"), .text (some "seen")] :=
    .cons (fun type typed => by cases typed; exact ⟨"Bob", rfl⟩)
      (.cons (fun type typed => by cases typed; exact ⟨"seen", rfl⟩) .nil)
  have mapsFirst : MapsFirst skippedLast.columns := by
    unfold MapsFirst
    decide
  refine ⟨untagged, (materialize_storedRow_iff skippedLast untagged).2.mpr ⟨mapsFirst, ?_⟩ _ own _⟩
  decide

/-- A table whose first field is not stored. -/
def skippedFirst : Table where
  name := "T"
  columns :=
    [{ field := "cache", name := "cache", mapped := false, type := some (.required .text) },
      { field := "name", name := "name", type := some (.required .text) }]

/-- A table whose last field is not stored and cannot be null. -/
def skippedDate : Table where
  name := "T"
  columns :=
    [{ field := "name", name := "name", type := some (.required .text) },
      { field := "day", name := "day", mapped := false, type := some (.required .date) }]

/-- A field that is not stored takes the value stored for the field behind it, or ends the
reading when it stands last and cannot be null. -/
theorem materialize_storedRow_skippedFirst_skippedDate :
    ((∀ column ∈ skippedFirst.columns, column.tag = none) ∧
      List.Forall₂ Column.Owns skippedFirst.columns [.text (some "seen"), .text (some "Bob")] ∧
      skippedFirst.materialize ⟨["name"],
          skippedFirst.storedRow [.text (some "seen"), .text (some "Bob")]⟩ =
        .ok [.text (some "Bob"), .text (some "")] ∧
      ¬KeepsMapped skippedFirst.columns [.text (some "seen"), .text (some "Bob")]
        [.text (some "Bob"), .text (some "")]) ∧
    (∀ column ∈ skippedDate.columns, column.tag = none) ∧
      List.Forall₂ Column.Owns skippedDate.columns [.text (some "Bob"), .date (some firstDate)] ∧
      skippedDate.materialize ⟨["name"],
          skippedDate.storedRow [.text (some "Bob"), .date (some firstDate)]⟩ =
        .error (.conversion "day" .null (.nullRefused .date)) := by
  refine ⟨⟨by decide, ?_, rfl, fun keeps => ?_⟩, by decide, ?_, rfl⟩
  · exact .cons (fun type typed => by cases typed; exact ⟨"seen", rfl⟩)
      (.cons (fun type typed => by cases typed; exact ⟨"Bob", rfl⟩) .nil)
  · exact absurd (keeps 1 _ rfl rfl) (by decide)
  · exact .cons (fun type typed => by cases typed; exact ⟨"Bob", rfl⟩)
      (.cons (fun type typed => by cases typed; exact ⟨firstDate, rfl⟩) .nil)

end SqlRecords
