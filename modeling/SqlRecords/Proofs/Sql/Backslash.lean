/-
This file says that the two dialects differ in the backslash and in nothing else. Whatever is
written, the dialect that escapes backslashes writes what the standard one writes for the same
thing with every backslash in its texts doubled, and fails where that one fails.

Values are written in many places, as literals of expressions, in tuples, behind columns and as
keys. No writer looks at more of a value than its literal and whether it is a null, so the values
may be replaced throughout together with the dialect. That is said first, for any replacement.
-/

import SqlRecords.Proofs.Sql.Appending

namespace SqlRecords

open TextWriter

/-! ### Replacing values -/

/-- An expression with its literals replaced. -/
def Expression.mapLiterals (change : Value → Value) : Expression → Expression
  | binary operator left right =>
    binary operator (left.mapLiterals change) (right.mapLiterals change)
  | negation operand => negation (operand.mapLiterals change)
  | field name => field name
  | literal value => literal (change value)

/-- The literals of an expression. -/
def Expression.literals : Expression → List Value
  | binary _ left right => left.literals ++ right.literals
  | negation operand => operand.literals
  | field _ => []
  | literal value => [value]

/-- A clause with the literals of its expression replaced. -/
def Clause.mapLiterals (change : Value → Value) : Clause → Clause
  | filter predicate => filter (predicate.mapLiterals change)
  | orderBy key => orderBy (key.mapLiterals change)
  | orderByDescending key => orderByDescending (key.mapLiterals change)
  | limit most => limit most
  | count => count

/-- The literals of a clause. -/
def Clause.literals : Clause → List Value
  | filter predicate => predicate.literals
  | orderBy key | orderByDescending key => key.literals
  | limit _ | count => []

/-- A query with the literals of its clauses replaced. -/
def Query.mapLiterals (change : Value → Value) (query : Query) : Query :=
  { query with clauses := query.clauses.map (Clause.mapLiterals change) }

/-- The same to write, with all its values replaced. -/
def WriterInput.mapValues (change : Value → Value) : WriterInput → WriterInput
  | value context given => value context (change given)
  | expression context given => expression context (given.mapLiterals change)
  | query given => query (given.mapLiterals change)
  | insert table rows => insert table (rows.map (List.map change))
  | update table row => update table (row.map change)
  | delete table row => delete table (row.map change)

/-- All values of what is given to write. -/
def WriterInput.values : WriterInput → List Value
  | value _ given => [given]
  | expression _ given => given.literals
  | query given => given.clauses.flatMap Clause.literals
  | insert _ rows => rows.flatten
  | update _ row | delete _ row => row

section Unchanged

variable {change : Value → Value}

theorem Expression.mapLiterals_eq_self (expression : Expression)
    (fixed : ∀ value ∈ expression.literals, change value = value) :
    expression.mapLiterals change = expression := by
  induction expression with
  | binary operator left right leftSame rightSame =>
    obtain ⟨leftFixed, rightFixed⟩ := List.forall_mem_append.mp fixed
    rw [mapLiterals, leftSame leftFixed, rightSame rightFixed]
  | negation operand operandSame => rw [mapLiterals, operandSame fixed]
  | field name => rfl
  | literal value => rw [mapLiterals, fixed value List.mem_cons_self]

theorem map_eq_self {Item : Type} {change : Item → Item} {items : List Item}
    (fixed : ∀ item ∈ items, change item = item) : items.map change = items :=
  (List.map_congr_left fixed).trans (List.map_id items)

theorem Clause.mapLiterals_eq_self (clause : Clause)
    (fixed : ∀ value ∈ clause.literals, change value = value) :
    clause.mapLiterals change = clause := by
  cases clause with
  | filter predicate => exact congrArg _ (predicate.mapLiterals_eq_self fixed)
  | orderBy key => exact congrArg _ (key.mapLiterals_eq_self fixed)
  | orderByDescending key => exact congrArg _ (key.mapLiterals_eq_self fixed)
  | limit count => rfl
  | count => rfl

/-- Replacing values that stay the same changes nothing. -/
theorem WriterInput.mapValues_eq_self (input : WriterInput)
    (fixed : ∀ value ∈ input.values, change value = value) : input.mapValues change = input := by
  cases input with
  | value context given => exact congrArg _ (fixed given List.mem_cons_self)
  | expression context given => exact congrArg _ (given.mapLiterals_eq_self fixed)
  | query given =>
    have clauses : given.clauses.map (Clause.mapLiterals change) = given.clauses :=
      map_eq_self fun clause member => clause.mapLiterals_eq_self fun value inside =>
        fixed value (List.mem_flatMap_of_mem member inside)
    simp only [mapValues, Query.mapLiterals, clauses]
  | insert table rows =>
    have each : rows.map (List.map change) = rows :=
      map_eq_self fun row member => map_eq_self fun value inside =>
        fixed value (List.mem_flatten_of_mem member inside)
    simp only [mapValues, each]
  | update table row => exact congrArg (update table) (map_eq_self fixed)
  | delete table row => exact congrArg (delete table) (map_eq_self fixed)

end Unchanged

/-! ### Replacing the dialect -/

/-- Whether a dialect writes every value as another one writes its replacement, and nulls are
replaced by nulls and by nothing else. -/
structure Dialect.WritesAs (dialect other : Dialect) (change : Value → Value) : Prop where
  literal : ∀ forKey value, dialect.literal forKey value = other.literal forKey (change value)
  isNull : ∀ value, (change value).isNull = value.isNull

section Replaced

variable {dialect other : Dialect} {change : Value → Value}

theorem writeValue_of_writesAs (same : dialect.WritesAs other change) (context : Context)
    (value : Value) :
    dialect.writeValue context value = other.writeValue context (change value) := by
  unfold Dialect.writeValue
  rw [same.literal]

theorem isNullLiteral_mapLiterals (same : dialect.WritesAs other change)
    (expression : Expression) :
    (expression.mapLiterals change).isNullLiteral = expression.isNullLiteral := by
  cases expression with
  | literal value => exact same.isNull value
  | _ => rfl

theorem writeExpression_of_writesAs (same : dialect.WritesAs other change) (context : Context)
    (expression : Expression) :
    dialect.writeExpression context expression =
      other.writeExpression context (expression.mapLiterals change) := by
  induction expression with
  | binary operator left right leftSame rightSame =>
    rw [Expression.mapLiterals, Dialect.writeExpression, Dialect.writeExpression, leftSame,
      rightSame, isNullLiteral_mapLiterals same]
  | negation operand operandSame =>
    rw [Expression.mapLiterals, Dialect.writeExpression, Dialect.writeExpression, operandSame]
  | field name => rfl
  | literal value => exact writeValue_of_writesAs same context value

theorem writeClause_of_writesAs (same : dialect.WritesAs other change) (table : Table)
    (fragment : Fragment) (clause : Clause) :
    dialect.writeClause table fragment clause =
      other.writeClause table fragment (clause.mapLiterals change) := by
  cases clause with
  | limit count => rfl
  | count => rfl
  | _ =>
    unfold Dialect.writeClause Clause.mapLiterals
    simp only [writeExpression_of_writesAs same]

theorem writeClauses_of_writesAs (same : dialect.WritesAs other change) (table : Table)
    (fragment : Fragment) (clauses : List Clause) :
    dialect.writeClauses table fragment clauses =
      other.writeClauses table fragment (clauses.map (Clause.mapLiterals change)) := by
  induction clauses generalizing fragment with
  | nil => rfl
  | cons clause rest inductionHypothesis =>
    rw [List.map_cons, Dialect.writeClauses, Dialect.writeClauses, writeClause_of_writesAs same]
    simp only [inductionHypothesis]

theorem isCount_mapLiterals (change : Value → Value) (query : Query) :
    (query.mapLiterals change).isCount = query.isCount := by
  unfold Query.isCount Query.mapLiterals
  rw [List.any_map]
  congr 1
  funext clause
  cases clause <;> rfl

theorem writeQuery_of_writesAs (same : dialect.WritesAs other change) (query : Query) :
    dialect.writeQuery query = other.writeQuery (query.mapLiterals change) := by
  unfold Dialect.writeQuery
  rw [isCount_mapLiterals, writeClauses_of_writesAs same]
  rfl

theorem separatedFrom_map {Failure First Second : Type}
    (writeItem : Second → TextWriter Failure Unit) (separator : String) (replace : First → Second)
    (separate : Bool) (items : List First) :
    separatedFrom writeItem separator separate (items.map replace) =
      separatedFrom (fun item => writeItem (replace item)) separator separate items := by
  induction items generalizing separate with
  | nil => rfl
  | cons item rest inductionHypothesis =>
    rw [List.map_cons, separatedFrom, separatedFrom]
    simp only [inductionHypothesis]

/-- Lists of cells, whatever is written for a cell. -/
theorem separated_cells_of_writesAs {writeCell writeOther : Column × Value → Writer Unit}
    (same : ∀ column value, writeCell (column, value) = writeOther (column, change value))
    (columns : List Column) (row : List Value) :
    separated writeCell "," (columns.zip row) =
      separated writeOther "," (columns.zip (row.map change)) := by
  have cells : writeCell = fun cell => writeOther (Prod.map id change cell) := by
    funext cell
    exact same cell.1 cell.2
  unfold separated
  rw [List.zip_map_right, separatedFrom_map, cells]

theorem writeTuple_of_writesAs (same : dialect.WritesAs other change) (table : Table)
    (row : List Value) :
    dialect.writeTuple table row = other.writeTuple table (row.map change) := by
  unfold Dialect.writeTuple
  rw [separated_cells_of_writesAs fun column value => ?_]
  unfold Dialect.writeInserted
  rw [writeValue_of_writesAs same]

theorem writeInsert_of_writesAs (same : dialect.WritesAs other change) (table : Table)
    (rows : List (List Value)) :
    dialect.writeInsert table rows = other.writeInsert table (rows.map (List.map change)) := by
  have tuples : dialect.writeTuple table = fun row => other.writeTuple table (row.map change) :=
    funext (writeTuple_of_writesAs same table)
  unfold Dialect.writeInsert separated
  rw [separatedFrom_map, tuples, List.isEmpty_map]

theorem writeMatch_of_writesAs (same : dialect.WritesAs other change) (context : Context)
    (column : String) (value : Value) :
    dialect.writeMatch context column value =
      other.writeMatch context column (change value) := by
  unfold Dialect.writeMatch
  rw [writeValue_of_writesAs same]

theorem keyValue_map (table : Table) (row : List Value) (position : Nat) :
    keyValue table (row.map change) position = change <$> keyValue table row position := by
  unfold keyValue
  rw [List.getElem?_map]
  cases row[position]? with
  | none => rfl
  | some value => exact (map_pure change value).symm

theorem writeKey_of_writesAs (same : dialect.WritesAs other change) (table : Table)
    (row : List Value) (context : Context) (position : Nat) (column : Column) :
    dialect.writeKey table row context position column =
      other.writeKey table (row.map change) context position column := by
  unfold Dialect.writeKey
  simp only [keyValue_map, bind_map_left, writeMatch_of_writesAs same]

theorem writeGuard_of_writesAs (same : dialect.WritesAs other change) (table : Table)
    (row : List Value) :
    dialect.writeGuard table row = other.writeGuard table (row.map change) := by
  unfold Dialect.writeGuard
  cases table.primaryKey? with
  | none => rfl
  | some key =>
    obtain ⟨position, column⟩ := key
    simp only [writeKey_of_writesAs same]

theorem writeUpdate_of_writesAs (same : dialect.WritesAs other change) (table : Table)
    (row : List Value) :
    dialect.writeUpdate table row = other.writeUpdate table (row.map change) := by
  rw [writeUpdate_eq, writeUpdate_eq, writeGuard_of_writesAs same,
    separated_cells_of_writesAs fun column value => ?_]
  unfold Dialect.writeAssignment
  rw [writeMatch_of_writesAs same]

theorem writeDelete_of_writesAs (same : dialect.WritesAs other change) (table : Table)
    (row : List Value) :
    dialect.writeDelete table row = other.writeDelete table (row.map change) := by
  cases key : table.primaryKey? with
  | none =>
    unfold Dialect.writeDelete
    simp only [key]
  | some place => rw [writeDelete_eq key, writeDelete_eq key, writeKey_of_writesAs same]

/-- Where a dialect writes values as another one writes their replacements, it writes everything
as that one does with the values replaced. -/
theorem write_of_writesAs (same : dialect.WritesAs other change) (input : WriterInput) :
    input.write dialect = (input.mapValues change).write other := by
  cases input with
  | value context value => exact writeValue_of_writesAs same context value
  | expression context expression => exact writeExpression_of_writesAs same context expression
  | query query => exact writeQuery_of_writesAs same query
  | insert table rows => exact writeInsert_of_writesAs same table rows
  | update table row => exact writeUpdate_of_writesAs same table row
  | delete table row => exact writeDelete_of_writesAs same table row

end Replaced

/-! ### Doubling backslashes -/

/-- A character, twice if it is a backslash. -/
def doubleBackslash (character : Char) : List Char :=
  if character = '\\' then ['\\', '\\'] else [character]

/-- A value with every backslash doubled, if it is a text. -/
def Value.doubleBackslashes : Value → Value
  | text content =>
    text (content.map fun given => String.ofList (given.toList.flatMap doubleBackslash))
  | value => value

/-- Escaping a character with backslashes is doubling it, if it is a backslash, and escaping it
without. -/
theorem escape_mysql (character : Char) :
    Dialect.mysql.escape character =
      (doubleBackslash character).flatMap Dialect.standard.escape := by
  by_cases backslash : character = '\\'
  · subst backslash
    rfl
  · rw [doubleBackslash, if_neg backslash, List.flatMap_singleton]
    by_cases quote : character = '\''
    · subst quote
      rfl
    · rw [escape_of_plain .mysql character quote backslash,
        escape_of_plain .standard character quote backslash]

theorem stringLiteral_mysql (text : String) :
    Dialect.mysql.stringLiteral text =
      Dialect.standard.stringLiteral (String.ofList (text.toList.flatMap doubleBackslash)) := by
  unfold Dialect.stringLiteral
  rw [String.toList_ofList, List.flatMap_assoc]
  rw [List.flatMap_congr fun character _ => escape_mysql character]

theorem mysql_writesAs_standard : Dialect.mysql.WritesAs .standard Value.doubleBackslashes := by
  constructor
  · intro forKey value
    cases value with
    | text content =>
      cases content with
      | none => rfl
      | some text => exact congrArg Except.ok (stringLiteral_mysql text)
    | null => rfl
    | _ =>
      rename_i content
      cases content <;> rfl
  · intro value
    cases value with
    | text content => cases content <;> rfl
    | _ => rfl

theorem flatMap_doubleBackslash_of_not_mem {characters : List Char}
    (none : '\\' ∉ characters) : characters.flatMap doubleBackslash = characters := by
  have single : ∀ character ∈ characters, doubleBackslash character = [character] := by
    intro character member
    refine if_neg ?_
    rintro rfl
    exact none member
  rw [List.flatMap_congr single, List.flatMap_singleton']

theorem doubleBackslashes_eq_self {value : Value}
    (none : ∀ text, value = .text (some text) → '\\' ∉ text.toList) :
    value.doubleBackslashes = value := by
  cases value with
  | text content =>
    cases content with
    | none => rfl
    | some text =>
      show Value.text (some (String.ofList (text.toList.flatMap doubleBackslash))) = _
      rw [flatMap_doubleBackslash_of_not_mem (none text rfl), String.ofList_toList]
  | _ => rfl

/-- Whatever is written and behind whatever text, the dialect with escapes gives the result and
leaves the text that the standard one does for the same with every backslash doubled in the texts
among the values. Where none of these texts has a backslash, the two dialects do the same. -/
theorem runOn_write_mysql (input : WriterInput) :
    (∀ before, (input.write .mysql).runOn before =
      ((input.mapValues Value.doubleBackslashes).write .standard).runOn before) ∧
    ((∀ text, Value.text (some text) ∈ input.values → '\\' ∉ text.toList) →
      ∀ before, (input.write .mysql).runOn before = (input.write .standard).runOn before) := by
  have doubled := write_of_writesAs mysql_writesAs_standard input
  refine ⟨fun before => by rw [doubled], fun none before => ?_⟩
  have fixed : ∀ value ∈ input.values, value.doubleBackslashes = value := by
    intro value member
    refine doubleBackslashes_eq_self fun text equal => ?_
    exact none text (equal ▸ member)
  rw [doubled, input.mapValues_eq_self fixed]

/-- The deletion of a record that is known by a name with a quote in it, which both dialects write
twice. -/
def quotedName : WriterInput :=
  .delete ⟨"T", [{ field := "name", name := "name", primaryKey := true }]⟩ [.text (some "it's")]

theorem runOn_write_mysql_quotedName :
    (∀ text, Value.text (some text) ∈ quotedName.values → '\\' ∉ text.toList) ∧
      ∀ before, (quotedName.write .mysql).runOn before =
        (quotedName.write .standard).runOn before := by
  have none : ∀ text, Value.text (some text) ∈ quotedName.values → '\\' ∉ text.toList := by
    intro text member
    cases List.mem_singleton.mp member
    decide
  exact ⟨none, (runOn_write_mysql quotedName).2 none⟩

end SqlRecords
