/-
This file says when a batch of records is written as an INSERT and what a server reads there.
The batch must not be empty, and every value that is assigned must have a literal. The server
then reads one tuple for each record, and in it one literal for each mapped column that has a
value in the row, whatever the texts among the values contain.

The statement names no columns, so a comma too many or too few would shift the values behind it.
Neither the columns that are left out nor rows of another length than the list of columns have
that effect.
-/

import SqlRecords.Proofs.Record.StoredRow
import SqlRecords.Proofs.Sql.LiteralLeaf
import SqlRecords.Proofs.Sql.Separated
import SqlRecords.Proofs.Sql.TupleReader
import SqlRecords.Samples

namespace SqlRecords

open TextWriter

/-! ### Cells and literals -/

/-- The cells of a record whose values are assigned by statements, in the order of the
columns. -/
def assignedCells (columns : List Column) (record : List Value) : List (Column × Value) :=
  (columns.zip record).filter fun cell => cell.1.mapped && !cell.1.generated

/-- Whether a literal is what an INSERT has for a cell: NULL for the server's own columns and for
nulls, the literal of the value otherwise. The literal of a text is read as that text. -/
def Dialect.Inserts (dialect : Dialect) (cell : Column × Value) (literal : TupleLiteral) : Prop :=
  if cell.1.generated || cell.2.isNull then literal = .null
  else
    ∃ text, dialect.literal false cell.2 = .ok text ∧ literal = .written text ∧
      ∀ content, cell.2 = .text (some content) →
        dialect.readString text.toList = some (content.toList, [])

/-! ### What is written for a cell -/

theorem appends_writeInserted (dialect : Dialect) (context : Context) (cell : Column × Value) :
    (dialect.writeInserted context cell).Appends := by
  unfold Dialect.writeInserted
  split
  · exact appends_pure ()
  · split
    · exact appends_write _
    · exact appends_writeValue dialect context cell.2

/-- The text of a mapped cell. -/
theorem toText_writeInserted (dialect : Dialect) (context : Context) {cell : Column × Value}
    (mapped : cell.1.mapped = true) :
    (dialect.writeInserted context cell).toText =
      if cell.1.generated then .ok "NULL"
      else dialect.literal context.fragment.isKeyAssignment cell.2 := by
  unfold Dialect.writeInserted
  rw [mapped]
  cases cell.1.generated with
  | true => exact toText_write "NULL"
  | false => exact toText_writeValue dialect context cell.2

theorem mapped_of_mem_storedCells {columns : List Column} {record : List Value}
    {cell : Column × Value} (member : cell ∈ storedCells columns record) :
    cell.1.mapped = true :=
  (List.mem_filter.mp member).2

theorem mem_assignedCells_iff {columns : List Column} {record : List Value}
    {cell : Column × Value} :
    cell ∈ assignedCells columns record ↔
      cell ∈ storedCells columns record ∧ cell.1.generated = false := by
  unfold assignedCells storedCells
  rw [List.mem_filter, List.mem_filter, Bool.and_eq_true, Bool.not_eq_true', and_assoc]

theorem toText_writeInserted_ne_empty {dialect : Dialect} {context : Context}
    {cell : Column × Value} {text : String} (mapped : cell.1.mapped = true)
    (written : (dialect.writeInserted context cell).toText = .ok text) : text ≠ "" := by
  rw [toText_writeInserted dialect context mapped] at written
  split at written
  · cases written
    decide
  · exact literal_ne_empty written

theorem exists_toText_writeInserted_iff (dialect : Dialect) (context : Context)
    {cell : Column × Value} (mapped : cell.1.mapped = true) :
    (∃ text, (dialect.writeInserted context cell).toText = .ok text) ↔
      (cell.1.generated = false →
        cell.2.isRenderable = true ∧ cell.2.hasUniversalDate = true) := by
  rw [toText_writeInserted dialect context mapped, ← exists_literal_iff dialect]
  cases cell.1.generated with
  | true => exact ⟨fun _ generated => (nomatch generated), fun _ => ⟨"NULL", rfl⟩⟩
  | false => exact ⟨fun written _ => written, fun written => written rfl⟩

theorem writes_null (dialect : Dialect) : dialect.Writes "NULL" .null :=
  fun rest ends => tokens_word dialect "NULL".toList rest (by decide) (by decide) ends

/-- What is written for a cell is the literal that an INSERT has for it. -/
theorem exists_writes_of_writeInserted {dialect : Dialect} {table : Table} {cell : Column × Value}
    {text : String} (mapped : cell.1.mapped = true)
    (written : (dialect.writeInserted ⟨.insertIntoValues, some table⟩ cell).toText = .ok text) :
    ∃ literal, dialect.Inserts cell literal ∧ dialect.Writes text literal := by
  rw [toText_writeInserted dialect _ mapped] at written
  unfold Dialect.Inserts
  cases generated : cell.1.generated with
  | true =>
    rw [generated] at written
    cases written
    exact ⟨.null, rfl, writes_null dialect⟩
  | false =>
    rw [generated] at written
    cases null : cell.2.isNull with
    | true =>
      obtain rfl : "NULL" = text :=
        Except.ok.inj ((literal_of_isNull dialect false cell.2 null).symm.trans written)
      exact ⟨.null, rfl, writes_null dialect⟩
    | false =>
      have leaf := isLeaf_literal dialect false cell.2 text null written
      refine ⟨.written text, ⟨text, written, rfl, fun content equal => ?_⟩,
        fun rest ends => tokens_leaf dialect text rest leaf ends⟩
      have literal : dialect.literal false (.text (some content)) =
          .ok (dialect.stringLiteral content) := rfl
      obtain rfl : dialect.stringLiteral content = text :=
        Except.ok.inj (literal.symm.trans (equal ▸ written))
      have read := readString_stringLiteral dialect content [] (by decide)
      rwa [List.append_nil] at read

/-! ### What is written for a record -/

theorem appends_writeTuple (dialect : Dialect) (table : Table) (record : List Value) :
    (dialect.writeTuple table record).Appends := by
  have cells := appends_separated "," (table.columns.zip record)
    (appends_writeInserted dialect ⟨.insertIntoValues, some table⟩)
  exact appends_bind (appends_write "(") fun _ => appends_bind cells fun _ => appends_write ")"

/-- The tuple of a record has the texts of its stored cells in parentheses. -/
theorem toText_writeTuple (dialect : Dialect) (table : Table) (record : List Value) :
    (dialect.writeTuple table record).toText =
      ((storedCells table.columns record).mapM fun cell =>
        (dialect.writeInserted ⟨.insertIntoValues, some table⟩ cell).toText).map fun texts =>
          "(" ++ ",".intercalate texts ++ ")" := by
  have appends := appends_writeInserted dialect ⟨.insertIntoValues, some table⟩
  have cells := toText_separated "," (storedCells table.columns record) appends
    fun cell member _ => toText_writeInserted_ne_empty (mapped_of_mem_storedCells member)
  have closed : ((separated (dialect.writeInserted ⟨.insertIntoValues, some table⟩) ","
      (storedCells table.columns record)) >>= fun _ => write ")").Appends :=
    appends_bind (appends_separated "," _ appends) fun _ => appends_write ")"
  rw [writeTuple_eq, toText_bind _ _ closed, toText_bind _ _ (appends_write ")"), cells,
    toText_write, toText_write]
  cases (storedCells table.columns record).mapM fun cell =>
    (dialect.writeInserted ⟨.insertIntoValues, some table⟩ cell).toText with
  | error failure => rfl
  | ok texts => exact congrArg Except.ok (String.append_assoc).symm

theorem toText_writeTuple_ne_empty {dialect : Dialect} {table : Table} {record : List Value}
    {text : String} (written : (dialect.writeTuple table record).toText = .ok text) :
    text ≠ "" := by
  rw [toText_writeTuple] at written
  obtain ⟨texts, -, rfl⟩ := (map_eq_ok_iff _ _ _).mp written
  simp

theorem exists_toText_writeTuple_iff (dialect : Dialect) (table : Table) (record : List Value) :
    (∃ text, (dialect.writeTuple table record).toText = .ok text) ↔
      ∀ cell ∈ assignedCells table.columns record,
        cell.2.isRenderable = true ∧ cell.2.hasUniversalDate = true := by
  rw [toText_writeTuple, exists_map_eq_ok_iff, exists_mapM_eq_ok_iff]
  constructor
  · intro each cell member
    obtain ⟨stored, assigned⟩ := mem_assignedCells_iff.mp member
    have written := each cell stored
    rw [exists_toText_writeInserted_iff dialect _ (mapped_of_mem_storedCells stored)] at written
    exact written assigned
  · intro each cell stored
    rw [exists_toText_writeInserted_iff dialect _ (mapped_of_mem_storedCells stored)]
    exact fun assigned => each cell (mem_assignedCells_iff.mpr ⟨stored, assigned⟩)

theorem exists_writesTuple_of_writeTuple {dialect : Dialect} {table : Table} {record : List Value}
    {text : String} (written : (dialect.writeTuple table record).toText = .ok text) :
    ∃ tuple, List.Forall₂ dialect.Inserts (storedCells table.columns record) tuple ∧
      dialect.WritesTuple text tuple := by
  rw [toText_writeTuple] at written
  obtain ⟨texts, cells, rfl⟩ := (map_eq_ok_iff _ _ _).mp written
  obtain ⟨tuple, inserts, writes⟩ :=
    exists_forall₂_between ((mapM_eq_ok_iff _ _ _).mp cells) fun cell member text textWritten =>
      exists_writes_of_writeInserted (mapped_of_mem_storedCells member) textWritten
  exact ⟨tuple, inserts, writesTuple_intercalate writes⟩

/-! ### What is written for a batch -/

theorem writeInsert_eq (dialect : Dialect) (table : Table) {rows : List (List Value)}
    (nonempty : rows ≠ []) :
    dialect.writeInsert table rows = (do
      write "INSERT INTO "
      write table.name
      write " VALUES "
      separated (dialect.writeTuple table) "," rows) := by
  cases rows with
  | nil => exact absurd rfl nonempty
  | cons row rest => rfl

theorem appends_writeInsert (dialect : Dialect) (table : Table) (rows : List (List Value)) :
    (dialect.writeInsert table rows).Appends := by
  by_cases nonempty : rows = []
  · subst nonempty
    exact appends_throw (StatementError.emptyBatch table.name)
  · rw [writeInsert_eq dialect table nonempty]
    exact appends_heading _ _ _ (appends_separated "," rows (appends_writeTuple dialect table))

/-- The text of an INSERT is made of the tuples of its records. -/
theorem toText_writeInsert (dialect : Dialect) (table : Table) {rows : List (List Value)}
    (nonempty : rows ≠ []) :
    (dialect.writeInsert table rows).toText =
      (rows.mapM fun row => (dialect.writeTuple table row).toText).map fun tuples =>
        "INSERT INTO " ++ table.name ++ " VALUES " ++ ",".intercalate tuples := by
  have tuples := toText_separated "," rows (appends_writeTuple dialect table)
    fun row _ _ => toText_writeTuple_ne_empty
  have values := appends_separated "," rows (appends_writeTuple dialect table)
  rw [writeInsert_eq dialect table nonempty, toText_heading _ _ _ values, tuples]
  cases rows.mapM fun row => (dialect.writeTuple table row).toText <;> rfl

theorem exists_toText_writeInsert_iff (dialect : Dialect) (table : Table)
    (rows : List (List Value)) :
    (∃ text, (dialect.writeInsert table rows).toText = .ok text) ↔
      rows ≠ [] ∧ ∀ row ∈ rows, ∀ cell ∈ assignedCells table.columns row,
        cell.2.isRenderable = true ∧ cell.2.hasUniversalDate = true := by
  by_cases nonempty : rows = []
  · subst nonempty
    have refused : (dialect.writeInsert table []).toText = .error (.emptyBatch table.name) := rfl
    rw [refused]
    exact ⟨fun ⟨_, written⟩ => (nomatch written), fun ⟨further, _⟩ => absurd rfl further⟩
  · rw [toText_writeInsert dialect table nonempty, exists_map_eq_ok_iff, exists_mapM_eq_ok_iff]
    simp only [exists_toText_writeTuple_iff]
    exact ⟨fun each => ⟨nonempty, each⟩, fun ⟨_, each⟩ => each⟩

theorem readTuples_of_writeInsert {dialect : Dialect} {table : Table} {rows : List (List Value)}
    {text : String} (written : (dialect.writeInsert table rows).toText = .ok text) :
    ∃ values tuples, text = "INSERT INTO " ++ table.name ++ " VALUES " ++ values ∧
      dialect.readTuples values = some tuples ∧
      List.Forall₂ (fun row tuple =>
        List.Forall₂ dialect.Inserts (storedCells table.columns row) tuple) rows tuples := by
  obtain ⟨nonempty, -⟩ := (exists_toText_writeInsert_iff dialect table rows).mp ⟨text, written⟩
  rw [toText_writeInsert dialect table nonempty] at written
  obtain ⟨texts, recordTexts, rfl⟩ := (map_eq_ok_iff _ _ _).mp written
  have all := (mapM_eq_ok_iff _ _ _).mp recordTexts
  obtain ⟨tuples, inserts, writes⟩ := exists_forall₂_between all fun row _ text rowWritten =>
    exists_writesTuple_of_writeTuple rowWritten
  refine ⟨",".intercalate texts, tuples, rfl, readTuples_intercalate writes ?_, inserts⟩
  rintro rfl
  exact nonempty (List.forall₂_nil_right_iff.mp all)

/-- A batch of records is written as an INSERT, behind any text, exactly if it is not empty and
every value that is assigned has a literal. What stands behind the name of the table is then read
as one tuple for each record, in their order, and the tuple as one literal for each mapped column
that has a value in the record, in the order of the columns. -/
theorem readTuples_writeInsert (dialect : Dialect) (table : Table) (rows : List (List Value))
    (before : String) :
    ((∃ after, (dialect.writeInsert table rows).runOn before = (.ok (), after)) ↔
      rows ≠ [] ∧ ∀ row ∈ rows, ∀ cell ∈ assignedCells table.columns row,
        cell.2.isRenderable = true ∧ cell.2.hasUniversalDate = true) ∧
    ∀ after, (dialect.writeInsert table rows).runOn before = (.ok (), after) →
      ∃ values tuples,
        after = before ++ ("INSERT INTO " ++ table.name ++ " VALUES " ++ values) ∧
        dialect.readTuples values = some tuples ∧
        List.Forall₂ (fun row tuple =>
          List.Forall₂ dialect.Inserts (storedCells table.columns row) tuple) rows tuples := by
  have written := exists_toText_writeInsert_iff dialect table rows
  simp only [runOn_eq_ok_iff (appends_writeInsert dialect table rows) before]
  constructor
  · rw [exists_comm, ← written]
    exact exists_congr fun text => ⟨fun ⟨_, equal, _⟩ => equal, fun equal => ⟨_, equal, rfl⟩⟩
  · rintro _ ⟨text, equal, rfl⟩
    obtain ⟨values, tuples, rfl, read, inserts⟩ := readTuples_of_writeInsert equal
    exact ⟨values, tuples, rfl, read, inserts⟩

-- The texts of two lines of a log, of which the first has no level.
example : ((Samples.table? "LogLine").map fun lines =>
    (Dialect.standard.writeInsert lines
      [[.text (some "it's up"), .text none],
        [.text (some "(down)"), .text (some "info")]]).toText.toOption) =
    some (some "INSERT INTO log_lines VALUES ('it''s up',NULL),('(down)','info')") := by
  decide +kernel

end SqlRecords
