/-
This file says which UPDATE and DELETE statements are written for a record, and which records
they can reach. A DELETE always names one record by its primary key, so it is refused where the
table has none. An UPDATE names one record where the table has a key, and every record exactly
where it has none.

The key is looked for among all columns and its value is taken from the row by position, while
the list of assignments leaves columns out; both count from the first column on.
-/

import SqlRecords.Proofs.Sql.InsertStatement

namespace SqlRecords

open TextWriter

/-! ### Keys -/

/-- Whether a column at a position is the key of a table: the first mapped column marked as
primary key. -/
structure Table.IsKey (table : Table) (position : Nat) (column : Column) : Prop where
  found : table.columns[position]? = some column
  mapped : column.mapped = true
  marked : column.primaryKey = true
  first : ∀ earlier < position, ∀ other, table.columns[earlier]? = some other →
    ¬(other.mapped = true ∧ other.primaryKey = true)

theorem primaryKey?_eq_some_iff (table : Table) (position : Nat) (column : Column) :
    table.primaryKey? = some (position, column) ↔ table.IsKey position column := by
  unfold Table.primaryKey?
  rw [Option.map_eq_some_iff]
  constructor
  · rintro ⟨⟨_, _⟩, found, equal⟩
    cases equal
    obtain ⟨passes, index, inside, equal, earlier⟩ :=
      List.find?_eq_some_iff_getElem.mp found
    rw [List.getElem_zipIdx, Nat.zero_add] at equal
    cases equal
    rw [Bool.and_eq_true] at passes
    refine ⟨List.getElem?_eq_getElem _, passes.1, passes.2, fun before less other otherFound => ?_⟩
    obtain ⟨_, rfl⟩ := List.getElem?_eq_some_iff.mp otherFound
    have fails := earlier before less
    rw [List.getElem_zipIdx, Bool.not_eq_true'] at fails
    rw [← Bool.and_eq_true, fails]
    exact Bool.false_ne_true
  · rintro ⟨found, mapped, marked, first⟩
    obtain ⟨inside, rfl⟩ := List.getElem?_eq_some_iff.mp found
    refine ⟨(_, position), List.find?_eq_some_iff_getElem.mpr ⟨?_, position, ?_, ?_, ?_⟩, rfl⟩
    · rw [mapped, marked]
      rfl
    · rw [List.length_zipIdx]
      exact inside
    · rw [List.getElem_zipIdx, Nat.zero_add]
    · intro before less
      have fails := first before less _ (List.getElem?_eq_getElem (Nat.lt_trans less inside))
      rw [List.getElem_zipIdx, Bool.not_eq_true', Bool.eq_false_iff, ne_eq, Bool.and_eq_true]
      exact fails

/-- Whether a table has a key. -/
def Table.HasKey (table : Table) : Prop :=
  ∃ column ∈ table.columns, column.mapped = true ∧ column.primaryKey = true

theorem primaryKey?_eq_none_iff (table : Table) : table.primaryKey? = none ↔ ¬table.HasKey := by
  unfold Table.primaryKey? Table.HasKey
  rw [Option.map_eq_none_iff, List.find?_eq_none, not_exists]
  constructor
  · rintro none column ⟨member, key⟩
    obtain ⟨position, found⟩ := List.mem_iff_getElem?.mp member
    exact none (column, position) (List.mk_mem_zipIdx_iff_getElem?.mpr found)
      (Bool.and_eq_true_iff.mpr key)
  · rintro keyless ⟨column, position⟩ member key
    have found := List.mk_mem_zipIdx_iff_getElem?.mp member
    exact keyless column ⟨List.mem_of_getElem? found, Bool.and_eq_true_iff.mp key⟩

/-! ### A column and its value -/

/-- The text that puts a column and a value together, to assign the one or to look for it. -/
def Dialect.matchText (dialect : Dialect) (column : String) (value : Value) :
    Except StatementError String :=
  (dialect.literal true value).map fun literal => column ++ "=" ++ literal

/-- The text that looks for a record by the key of its table. -/
def Dialect.keyMatchText (dialect : Dialect) (table : Table) (row : List Value) (position : Nat)
    (column : Column) : Except StatementError String :=
  match row[position]? with
  | some value => dialect.matchText column.name value
  | none => .error (.missingKeyValue table.name position)

theorem appends_writeMatch (dialect : Dialect) (context : Context) (column : String)
    (value : Value) : (dialect.writeMatch context column value).Appends :=
  appends_bind (appends_write column) fun _ =>
    appends_bind (appends_write "=") fun _ => appends_writeValue dialect context value

theorem toText_writeMatch (dialect : Dialect) {context : Context}
    (forKey : context.fragment.isKeyAssignment = true) (column : String) (value : Value) :
    (dialect.writeMatch context column value).toText = dialect.matchText column value := by
  have literal := appends_writeValue dialect context value
  have sign := appends_bind (appends_write "=") fun _ => literal
  unfold Dialect.writeMatch Dialect.matchText
  rw [toText_write_bind _ _ sign, toText_write_bind _ _ literal, toText_writeValue, forKey]
  cases dialect.literal true value with
  | error failure => rfl
  | ok text => exact congrArg Except.ok (String.append_assoc).symm

/-- Writes what looks for a record by the key of its table. -/
def Dialect.writeKey (dialect : Dialect) (table : Table) (row : List Value) (context : Context)
    (position : Nat) (column : Column) : Writer Unit := do
  let value ← keyValue table row position
  dialect.writeMatch context column.name value

theorem appends_writeKey (dialect : Dialect) (table : Table) (row : List Value)
    (context : Context) (position : Nat) (column : Column) :
    (dialect.writeKey table row context position column).Appends := by
  unfold Dialect.writeKey keyValue
  cases row[position]? with
  | some value => exact appends_writeMatch dialect context column.name value
  | none => exact appends_throw _

theorem toText_writeKey (dialect : Dialect) (table : Table) (row : List Value) {context : Context}
    (forKey : context.fragment.isKeyAssignment = true) (position : Nat) (column : Column) :
    (dialect.writeKey table row context position column).toText =
      dialect.keyMatchText table row position column := by
  unfold Dialect.writeKey keyValue Dialect.keyMatchText
  cases row[position]? with
  | some value => exact toText_writeMatch dialect forKey column.name value
  | none => rfl

/-! ### DELETE -/

theorem writeDelete_eq {table : Table} {position : Nat} {column : Column}
    (key : table.primaryKey? = some (position, column)) (dialect : Dialect) (row : List Value) :
    dialect.writeDelete table row = (do
      write "DELETE FROM "
      write table.name
      write " WHERE "
      dialect.writeKey table row ⟨.deleteFromWhere, some table⟩ position column) := by
  unfold Dialect.writeDelete
  rw [key]
  rfl

theorem appends_writeDelete (dialect : Dialect) (table : Table) (row : List Value) :
    (dialect.writeDelete table row).Appends := by
  cases key : table.primaryKey? with
  | none =>
    unfold Dialect.writeDelete
    rw [key]
    exact appends_throw _
  | some place =>
    rw [writeDelete_eq key]
    exact appends_heading _ _ _ (appends_writeKey dialect table row _ _ _)

theorem toText_writeDelete (dialect : Dialect) (table : Table) (row : List Value) :
    (dialect.writeDelete table row).toText =
      match table.primaryKey? with
      | none => .error (.missingPrimaryKey table.name)
      | some (position, column) =>
        (dialect.keyMatchText table row position column).map fun condition =>
          "DELETE FROM " ++ table.name ++ " WHERE " ++ condition := by
  cases key : table.primaryKey? with
  | none =>
    unfold Dialect.writeDelete
    rw [key]
    rfl
  | some place =>
    rw [writeDelete_eq key, toText_heading _ _ _ (appends_writeKey dialect table row _ _ _),
      toText_writeKey dialect table row rfl]

/-! ### UPDATE -/

theorem matchText_ne_empty {dialect : Dialect} {column : String} {value : Value} {text : String}
    (written : dialect.matchText column value = .ok text) : text ≠ "" := by
  obtain ⟨literal, -, rfl⟩ := (map_eq_ok_iff _ _ _).mp written
  simp

theorem writeAssignment_of_mem {dialect : Dialect} {context : Context} {columns : List Column}
    {record : List Value} {cell : Column × Value} (member : cell ∈ assignedCells columns record) :
    dialect.writeAssignment context cell = dialect.writeMatch context cell.1.name cell.2 := by
  obtain ⟨stored, assigned⟩ := mem_assignedCells_iff.mp member
  unfold Dialect.writeAssignment
  rw [mapped_of_mem_storedCells stored, assigned]
  rfl

theorem appends_writeAssignment (dialect : Dialect) (context : Context) (cell : Column × Value) :
    (dialect.writeAssignment context cell).Appends := by
  unfold Dialect.writeAssignment
  split
  · exact appends_pure ()
  · exact appends_writeMatch dialect context cell.1.name cell.2

/-- The list of assignments has one text for each assigned cell. -/
theorem toText_separated_writeAssignment (dialect : Dialect) (table : Table) (row : List Value) :
    (separated (dialect.writeAssignment ⟨.updateSet, some table⟩) ","
        (table.columns.zip row)).toText =
      ((assignedCells table.columns row).mapM fun cell =>
        dialect.matchText cell.1.name cell.2).map ",".intercalate := by
  have silent : ∀ cell : Column × Value, (cell.1.mapped && !cell.1.generated) = false →
      dialect.writeAssignment ⟨.updateSet, some table⟩ cell = pure () := by
    intro cell unassigned
    have left : (!cell.1.mapped || cell.1.generated) = true := by
      rw [← Bool.not_eq_false', Bool.not_or, Bool.not_not]
      exact unassigned
    exact if_pos left
  have texts : ∀ cell ∈ assignedCells table.columns row,
      (dialect.writeAssignment ⟨.updateSet, some table⟩ cell).toText =
        dialect.matchText cell.1.name cell.2 := by
    intro cell member
    rw [writeAssignment_of_mem member]
    exact toText_writeMatch dialect rfl cell.1.name cell.2
  rw [separated, separatedFrom_filter _ "," _ silent false]
  refine (toText_separated "," (assignedCells table.columns row)
    (appends_writeAssignment dialect _) fun cell member text written => ?_).trans ?_
  · rw [texts cell member] at written
    exact matchText_ne_empty written
  · rw [mapM_congr_of_mem texts]

/-- What an UPDATE has behind its assignments: the search for the key, if the table has one. -/
def Dialect.guardText (dialect : Dialect) (table : Table) (row : List Value) :
    Except StatementError String :=
  match table.primaryKey? with
  | none => .ok ""
  | some (position, column) =>
    (dialect.keyMatchText table row position column).map fun condition => " WHERE " ++ condition

/-- Writes what an UPDATE has behind its assignments. -/
def Dialect.writeGuard (dialect : Dialect) (table : Table) (row : List Value) : Writer Unit :=
  match table.primaryKey? with
  | none => pure ()
  | some (position, column) => do
    write " WHERE "
    dialect.writeKey table row ⟨.updateWhere, some table⟩ position column

theorem appends_writeGuard (dialect : Dialect) (table : Table) (row : List Value) :
    (dialect.writeGuard table row).Appends := by
  unfold Dialect.writeGuard
  split
  · exact appends_pure ()
  · exact appends_bind (appends_write _) fun _ => appends_writeKey dialect table row _ _ _

theorem toText_writeGuard (dialect : Dialect) (table : Table) (row : List Value) :
    (dialect.writeGuard table row).toText = dialect.guardText table row := by
  unfold Dialect.writeGuard Dialect.guardText
  cases table.primaryKey? with
  | none => rfl
  | some key =>
    obtain ⟨position, column⟩ := key
    have keyed := appends_writeKey dialect table row ⟨.updateWhere, some table⟩ position column
    refine (toText_write_bind _ _ keyed).trans ?_
    rw [toText_writeKey dialect table row rfl]

theorem intercalate_eq_empty_iff {texts : List String} (nonempty : ∀ text ∈ texts, text ≠ "") :
    ",".intercalate texts = "" ↔ texts = [] := by
  cases texts with
  | nil => exact ⟨fun _ => rfl, fun _ => rfl⟩
  | cons first further =>
    refine ⟨fun empty => ?_, fun equal => (nomatch equal)⟩
    have characters := congrArg String.toList empty
    rw [toList_intercalate_cons, String.toList_empty, List.append_eq_nil_iff] at characters
    exact absurd (String.toList_eq_nil_iff.mp characters.1) (nonempty first List.mem_cons_self)

section Required

variable {Failure : Type}

/-- Writes what must not be empty, and something behind it. -/
def TextWriter.required (failure : Failure) (writer behind : TextWriter Failure Unit) :
    TextWriter Failure Unit := do
  let mark ← get
  writer
  if (← get).utf8ByteSize = mark.utf8ByteSize then throw failure
  behind

variable {writer behind : TextWriter Failure Unit} (failure : Failure)

theorem run_required (appends : writer.Appends) (before : String) :
    (required failure writer behind).run.run before =
      match writer.run.run "" with
      | (.ok _, text) =>
        if text = "" then (.error failure, before) else behind.run.run (before ++ text)
      | (.error other, text) => (.error other, before ++ text) := by
  have written := appends before
  rw [required, run_bind_of_ok _ (run_get before)]
  rcases result : writer.run.run "" with ⟨other | value, text⟩
  · rw [result] at written
    rw [run_bind_of_error _ written]
  · rw [result] at written
    rw [run_bind_of_ok _ written]
    by_cases empty : text = ""
    · subst empty
      rw [String.append_empty]
      exact congrFun (if_pos rfl) before
    · have longer := mt (utf8ByteSize_append_eq_iff before text).mp empty
      exact (congrFun (if_neg longer) (before ++ text)).trans (if_neg empty).symm

theorem appends_required (first : writer.Appends) (second : behind.Appends) :
    (required failure writer behind).Appends := by
  intro before
  rw [run_required failure first before, run_required failure first ""]
  rcases writer.run.run "" with ⟨other | value, text⟩
  · simp only [String.empty_append]
  · by_cases empty : text = ""
    · simp only [if_pos empty, String.append_empty]
    · simp only [if_neg empty]
      rw [second (before ++ text), second ("" ++ text)]
      simp only [String.empty_append, String.append_assoc]

theorem toText_required (first : writer.Appends) (second : behind.Appends) :
    (required failure writer behind).toText = do
      let text ← writer.toText
      if text = "" then throw failure
      return text ++ (← behind.toText) := by
  unfold toText runOn
  rw [run_required failure first ""]
  rcases writer.run.run "" with ⟨other | value, text⟩
  · rfl
  · by_cases empty : text = ""
    · simp only [if_pos empty]
      exact (if_pos empty).symm
    · simp only [if_neg empty]
      rw [String.empty_append, second text]
      refine Eq.trans ?_ (if_neg empty).symm
      rcases behind.run.run "" with ⟨other | value, rest⟩ <;> rfl

end Required

theorem writeUpdate_eq (dialect : Dialect) (table : Table) (row : List Value) :
    dialect.writeUpdate table row = (do
      write "UPDATE "
      write table.name
      write " SET "
      required (.nothingToUpdate table.name)
        (separated (dialect.writeAssignment ⟨.updateSet, some table⟩) ","
          (table.columns.zip row))
        (dialect.writeGuard table row)) := by
  unfold Dialect.writeUpdate Dialect.writeGuard
  cases table.primaryKey? <;> rfl

theorem appends_writeUpdate (dialect : Dialect) (table : Table) (row : List Value) :
    (dialect.writeUpdate table row).Appends := by
  have assignments := appends_separated "," (table.columns.zip row)
    (appends_writeAssignment dialect ⟨.updateSet, some table⟩)
  rw [writeUpdate_eq]
  exact appends_heading _ _ _
    (appends_required _ assignments (appends_writeGuard dialect table row))

/-- The text of an UPDATE: the assignments and the search for the key. It is refused for the
first value without a literal, then for want of assignments, then for its key. -/
theorem toText_writeUpdate (dialect : Dialect) (table : Table) (row : List Value) :
    (dialect.writeUpdate table row).toText = do
      let assignments ← (assignedCells table.columns row).mapM fun cell =>
        dialect.matchText cell.1.name cell.2
      if assignments = [] then throw (.nothingToUpdate table.name)
      let guard ← dialect.guardText table row
      return "UPDATE " ++ table.name ++ " SET " ++ ",".intercalate assignments ++ guard := by
  have assignments := appends_separated "," (table.columns.zip row)
    (appends_writeAssignment dialect ⟨.updateSet, some table⟩)
  have guard := appends_writeGuard dialect table row
  rw [writeUpdate_eq, toText_heading _ _ _ (appends_required _ assignments guard),
    toText_required _ assignments guard, toText_writeGuard, toText_separated_writeAssignment]
  cases written : (assignedCells table.columns row).mapM fun cell =>
    dialect.matchText cell.1.name cell.2 with
  | error failure => rfl
  | ok texts =>
    have nonempty : ∀ text ∈ texts, text ≠ "" := by
      intro text member
      obtain ⟨cell, -, cellWritten⟩ :=
        exists_mem_of_forall₂ ((mapM_eq_ok_iff _ _ _).mp written) member
      exact matchText_ne_empty cellWritten
    show Except.map _ (if ",".intercalate texts = "" then _ else _) =
      if texts = [] then _ else _
    by_cases empty : texts = []
    · subst empty
      rfl
    · rw [if_neg (mt (intercalate_eq_empty_iff nonempty).mp empty), if_neg empty]
      cases dialect.guardText table row with
      | error failure => rfl
      | ok guard =>
        show Except.ok _ = Except.ok _
        simp only [String.append_assoc]

/-! ### Statements about one record -/

/-- Whether a condition picks a record by the key of its table: it looks for the value that the
record has at the position of the key. -/
def Dialect.PicksRecord (dialect : Dialect) (table : Table) (row : List Value)
    (condition : String) : Prop :=
  ∃ position column value, table.IsKey position column ∧ row[position]? = some value ∧
    dialect.matchText column.name value = .ok condition

theorem keyMatchText_eq_ok_iff (dialect : Dialect) (table : Table) (row : List Value)
    (position : Nat) (column : Column) (condition : String) :
    dialect.keyMatchText table row position column = .ok condition ↔
      ∃ value, row[position]? = some value ∧
        dialect.matchText column.name value = .ok condition := by
  unfold Dialect.keyMatchText
  cases row[position]? with
  | none => exact ⟨fun equal => (nomatch equal), fun ⟨_, equal, _⟩ => (nomatch equal)⟩
  | some value =>
    constructor
    · exact fun written => ⟨value, rfl, written⟩
    · rintro ⟨_, equal, written⟩
      cases equal
      exact written

theorem picksRecord_iff {dialect : Dialect} {table : Table} {row : List Value} {position : Nat}
    {column : Column} (key : table.primaryKey? = some (position, column)) (condition : String) :
    dialect.PicksRecord table row condition ↔
      dialect.keyMatchText table row position column = .ok condition := by
  rw [keyMatchText_eq_ok_iff]
  constructor
  · rintro ⟨other, otherColumn, value, otherKey, picked⟩
    rw [← primaryKey?_eq_some_iff, key] at otherKey
    cases otherKey
    exact ⟨value, picked⟩
  · rintro ⟨value, picked⟩
    exact ⟨position, column, value, (primaryKey?_eq_some_iff table position column).mp key, picked⟩

theorem not_picksRecord {dialect : Dialect} {table : Table} {row : List Value}
    (keyless : table.primaryKey? = none) (condition : String) :
    ¬dialect.PicksRecord table row condition := by
  rintro ⟨position, column, _, key, -⟩
  rw [← primaryKey?_eq_some_iff, keyless] at key
  cases key

theorem toText_writeDelete_eq_ok_iff (dialect : Dialect) (table : Table) (row : List Value)
    (text : String) :
    (dialect.writeDelete table row).toText = .ok text ↔
      ∃ condition, dialect.PicksRecord table row condition ∧
        text = "DELETE FROM " ++ table.name ++ " WHERE " ++ condition := by
  rw [toText_writeDelete]
  cases key : table.primaryKey? with
  | none =>
    exact ⟨fun equal => (nomatch equal),
      fun ⟨condition, picks, _⟩ => absurd picks (not_picksRecord key condition)⟩
  | some place =>
    simp only [picksRecord_iff key, map_eq_ok_iff, eq_comm (a := text)]

theorem guardText_eq_ok_iff (dialect : Dialect) (table : Table) (row : List Value)
    (guard : String) :
    dialect.guardText table row = .ok guard ↔
      (∃ condition, dialect.PicksRecord table row condition ∧ guard = " WHERE " ++ condition) ∨
        ¬table.HasKey ∧ guard = "" := by
  rw [← primaryKey?_eq_none_iff, Dialect.guardText]
  cases key : table.primaryKey? with
  | none =>
    constructor
    · exact fun equal => Or.inr ⟨rfl, (Except.ok.inj equal).symm⟩
    · rintro (⟨condition, picks, -⟩ | ⟨-, rfl⟩)
      · exact absurd picks (not_picksRecord key condition)
      · rfl
  | some place =>
    simp only [picksRecord_iff key, map_eq_ok_iff, eq_comm (a := guard), reduceCtorEq, false_and,
      or_false]

theorem toText_writeUpdate_eq_ok_iff (dialect : Dialect) (table : Table) (row : List Value)
    (text : String) :
    (dialect.writeUpdate table row).toText = .ok text ↔
      ∃ assignments guard, assignedCells table.columns row ≠ [] ∧
        (assignedCells table.columns row).mapM (fun cell =>
          dialect.matchText cell.1.name cell.2) = .ok assignments ∧
        ((∃ condition, dialect.PicksRecord table row condition ∧ guard = " WHERE " ++ condition) ∨
          ¬table.HasKey ∧ guard = "") ∧
        text = "UPDATE " ++ table.name ++ " SET " ++ ",".intercalate assignments ++ guard := by
  simp only [← guardText_eq_ok_iff]
  rw [toText_writeUpdate, bind_eq_ok_iff]
  have nonempty {assignments : List String}
      (mapped : (assignedCells table.columns row).mapM (fun cell =>
        dialect.matchText cell.1.name cell.2) = .ok assignments) :
      assignments = [] ↔ assignedCells table.columns row = [] := by
    have size := ((mapM_eq_ok_iff _ _ _).mp mapped).length_eq
    rw [← List.length_eq_zero_iff, ← size, List.length_eq_zero_iff]
  constructor
  · rintro ⟨assignments, mapped, continued⟩
    by_cases empty : assignments = []
    · rw [if_pos empty] at continued
      cases continued
    · rw [if_neg empty] at continued
      obtain ⟨guard, guarded, equal⟩ := (bind_eq_ok_iff _ _ _).mp continued
      exact ⟨assignments, guard, mt (nonempty mapped).mpr empty, mapped, guarded,
        (Except.ok.inj equal).symm⟩
  · rintro ⟨assignments, guard, assigned, mapped, guarded, rfl⟩
    refine ⟨assignments, mapped, ?_⟩
    rw [if_neg (mt (nonempty mapped).mp assigned), guarded]
    rfl

/-- A DELETE is written, behind any text, exactly if the table has a key and the record a value
with a literal at the position of the key, and it looks for just that value. Without a key it is
refused before anything is written. An UPDATE is written exactly if some value is assigned, all
values that are assigned have literals and, where the table has a key, so has the value at its
position; it assigns these values in the order of the columns and looks for the key exactly where
there is one. -/
theorem writeDelete_guarded_writeUpdate_guarded_iff (dialect : Dialect) (table : Table)
    (row : List Value) (before : String) :
    (∀ after, (dialect.writeDelete table row).runOn before = (.ok (), after) ↔
      ∃ condition, dialect.PicksRecord table row condition ∧
        after = before ++ ("DELETE FROM " ++ table.name ++ " WHERE " ++ condition)) ∧
    (¬table.HasKey →
      (dialect.writeDelete table row).runOn before =
        (.error (.missingPrimaryKey table.name), before)) ∧
    (∀ after, (dialect.writeUpdate table row).runOn before = (.ok (), after) ↔
      ∃ assignments guard, assignedCells table.columns row ≠ [] ∧
        (assignedCells table.columns row).mapM (fun cell =>
          dialect.matchText cell.1.name cell.2) = .ok assignments ∧
        ((∃ condition, dialect.PicksRecord table row condition ∧ guard = " WHERE " ++ condition) ∨
          ¬table.HasKey ∧ guard = "") ∧
        after = before ++
          ("UPDATE " ++ table.name ++ " SET " ++ ",".intercalate assignments ++ guard)) ∧
    ∀ column value, (∃ text, dialect.matchText column value = .ok text) ↔
      value.isRenderable = true ∧ value.hasUniversalDate = true := by
  refine ⟨fun after => ?_, fun keyless => ?_, fun after => ?_, fun column value => ?_⟩
  · rw [runOn_eq_ok_iff (appends_writeDelete dialect table row)]
    simp only [toText_writeDelete_eq_ok_iff]
    constructor
    · rintro ⟨_, ⟨condition, picks, rfl⟩, rfl⟩
      exact ⟨condition, picks, rfl⟩
    · rintro ⟨condition, picks, rfl⟩
      exact ⟨_, ⟨condition, picks, rfl⟩, rfl⟩
  · unfold Dialect.writeDelete
    rw [(primaryKey?_eq_none_iff table).mpr keyless]
    rfl
  · rw [runOn_eq_ok_iff (appends_writeUpdate dialect table row)]
    simp only [toText_writeUpdate_eq_ok_iff]
    constructor
    · rintro ⟨_, ⟨assignments, guard, assigned, mapped, guarded, rfl⟩, rfl⟩
      exact ⟨assignments, guard, assigned, mapped, guarded, rfl⟩
    · rintro ⟨assignments, guard, assigned, mapped, guarded, rfl⟩
      exact ⟨_, ⟨assignments, guard, assigned, mapped, guarded, rfl⟩, rfl⟩
  · rw [Dialect.matchText, exists_map_eq_ok_iff, exists_literal_iff]

-- The key is the first column that is marked and mapped, not the first that is marked.
example :
    (Dialect.standard.writeDelete
        ⟨"T", [{ field := "a", name := "a", primaryKey := true, mapped := false },
          { field := "b", name := "b", primaryKey := true }]⟩
        [.boolean (some false), .boolean (some true)]).toText =
      .ok "DELETE FROM T WHERE b=1" := rfl

end SqlRecords
