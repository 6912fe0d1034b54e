/-
This file says how writers run: which of them only append to the text they start on, and what a
sequence of writers leaves there.

A writer that only appends is known by the text it writes on its own, and the text of two such
writers in a row is the one text followed by the other, unless one of them fails. Values and
expressions are written by writers of this kind.
-/

import SqlRecords.Proofs.Results
import SqlRecords.Sql.Predicate

namespace SqlRecords

namespace TextWriter

variable {Failure First Second : Type}

/-! ### Writers that only append -/

theorem run_write (piece before : String) :
    (write piece : TextWriter Failure Unit).run.run before = (.ok (), before ++ piece) := rfl

/-- A writer that only appends: whatever text it starts on, it does what it does on the empty
text, behind that text. -/
def Appends (writer : TextWriter Failure First) : Prop :=
  ∀ before : String,
    writer.run.run before = ((writer.run.run "").1, before ++ (writer.run.run "").2)

theorem appends_pure (value : First) : (pure value : TextWriter Failure First).Appends :=
  fun _ => congrArg _ (String.append_empty).symm

theorem appends_throw (failure : Failure) :
    (throw failure : TextWriter Failure First).Appends := by
  intro before
  show (Except.error failure, before) = (Except.error failure, before ++ "")
  rw [String.append_empty]

theorem appends_write (piece : String) : (write piece : TextWriter Failure Unit).Appends := by
  intro before
  rw [run_write, run_write, String.empty_append]

theorem appends_bind {writer : TextWriter Failure First}
    {next : First → TextWriter Failure Second} (first : writer.Appends)
    (second : ∀ value, (next value).Appends) : (writer >>= next).Appends := by
  intro before
  have start := first before
  rcases result : writer.run.run "" with ⟨failure | value, text⟩
  · rw [result] at start
    rw [run_bind_of_error next start, run_bind_of_error next result]
  · rw [result] at start
    rw [run_bind_of_ok next start, run_bind_of_ok next result, second value (before ++ text),
      second value text, String.append_assoc]

/-! ### The outcome of a writer -/

/-- What a writer gives and the text it leaves, or its failure. What was written before a
failure is forgotten. -/
def outcome (writer : TextWriter Failure First) (before : String) :
    Except Failure (First × String) :=
  match writer.run.run before with
  | (.ok value, text) => .ok (value, text)
  | (.error failure, _) => .error failure

theorem outcome_of_ok {writer : TextWriter Failure First} {before text : String} {value : First}
    (result : writer.run.run before = (.ok value, text)) :
    writer.outcome before = .ok (value, text) := by
  rw [outcome, result]

theorem outcome_of_error {writer : TextWriter Failure First} {before text : String}
    {failure : Failure} (result : writer.run.run before = (.error failure, text)) :
    writer.outcome before = .error failure := by
  rw [outcome, result]

theorem outcome_pure (value : First) (before : String) :
    (pure value : TextWriter Failure First).outcome before = .ok (value, before) := rfl

theorem outcome_write (piece before : String) :
    (write piece : TextWriter Failure Unit).outcome before = .ok ((), before ++ piece) := rfl

/-- A sequence goes on from where its first writer ended, unless that one failed. -/
theorem outcome_bind (writer : TextWriter Failure First)
    (next : First → TextWriter Failure Second) (before : String) :
    (writer >>= next).outcome before =
      writer.outcome before >>= fun reached => (next reached.1).outcome reached.2 := by
  rcases result : writer.run.run before with ⟨failure | value, text⟩
  · rw [outcome_of_error result, outcome_of_error (run_bind_of_error next result)]
    rfl
  · rw [outcome_of_ok result, outcome, run_bind_of_ok next result]
    rfl

/-! ### The text of a writer -/

theorem toText_eq_outcome (writer : TextWriter Failure Unit) :
    writer.toText = (writer.outcome "").map Prod.snd := by
  unfold toText runOn outcome
  rcases writer.run.run "" with ⟨failure | value, text⟩ <;> rfl

/-- A writer that only appends writes its text behind the text it starts on. -/
theorem outcome_of_appends {writer : TextWriter Failure Unit} (appends : writer.Appends)
    (before : String) :
    writer.outcome before = writer.toText.map fun text => ((), before ++ text) := by
  rw [toText_eq_outcome, outcome, outcome, appends before]
  rcases writer.run.run "" with ⟨failure | value, text⟩ <;> rfl

/-- A writer that only appends succeeds on any text as it does on the empty one. -/
theorem runOn_eq_ok_iff {writer : TextWriter Failure Unit} (appends : writer.Appends)
    (before after : String) :
    writer.runOn before = (.ok (), after) ↔
      ∃ text, writer.toText = .ok text ∧ after = before ++ text := by
  unfold toText runOn
  rw [appends before]
  rcases writer.run.run "" with ⟨failure | value, text⟩
  · simp
  · simp [eq_comm]

theorem toText_write (piece : String) :
    (write piece : TextWriter Failure Unit).toText = .ok piece := by
  rw [toText_eq_outcome, outcome_write, String.empty_append]
  rfl

/-- The text of two writers in a row, where the second one only appends. -/
theorem toText_bind (writer : TextWriter Failure Unit) (next : Unit → TextWriter Failure Unit)
    (appends : (next ()).Appends) :
    (writer >>= next).toText = do
      let start ← writer.toText
      let rest ← (next ()).toText
      return start ++ rest := by
  rw [toText_eq_outcome, outcome_bind, toText_eq_outcome writer]
  rcases writer.outcome "" with failure | ⟨value, start⟩
  · rfl
  · show ((next ()).outcome start).map Prod.snd = _
    rw [outcome_of_appends appends]
    cases (next ()).toText <;> rfl

theorem toText_write_bind (piece : String) (next : Unit → TextWriter Failure Unit)
    (appends : (next ()).Appends) :
    (write piece >>= next).toText = (next ()).toText.map (piece ++ ·) := by
  rw [toText_bind _ _ appends, toText_write]
  cases (next ()).toText <;> rfl

/-! ### Statements about a table -/

section Heading

variable (start name stop : String) {body : TextWriter Failure Unit}

theorem appends_heading (appends : body.Appends) :
    (do
      write start
      write name
      write stop
      body : TextWriter Failure Unit).Appends :=
  appends_bind (appends_write start) fun _ => appends_bind (appends_write name) fun _ =>
    appends_bind (appends_write stop) fun _ => appends

/-- A statement begins with words, the name of its table and words again. -/
theorem toText_heading (appends : body.Appends) :
    (do
      write start
      write name
      write stop
      body : TextWriter Failure Unit).toText =
      body.toText.map fun text => start ++ name ++ stop ++ text := by
  have behindName := appends_bind (appends_write stop) fun _ => appends
  have behindStart := appends_bind (appends_write name) fun _ => behindName
  rw [toText_write_bind _ _ behindStart, toText_write_bind _ _ behindName,
    toText_write_bind _ _ appends]
  cases body.toText with
  | error failure => rfl
  | ok text =>
    show Except.ok _ = Except.ok _
    simp only [String.append_assoc]

end Heading

end TextWriter

open TextWriter

/-! ### Values -/

theorem appends_writeValue (dialect : Dialect) (context : Context) (value : Value) :
    (dialect.writeValue context value).Appends := by
  unfold Dialect.writeValue
  cases dialect.literal context.fragment.isKeyAssignment value with
  | ok text => exact appends_write text
  | error failure => exact appends_throw failure

theorem toText_writeValue (dialect : Dialect) (context : Context) (value : Value) :
    (dialect.writeValue context value).toText =
      dialect.literal context.fragment.isKeyAssignment value := by
  unfold Dialect.writeValue
  cases dialect.literal context.fragment.isKeyAssignment value with
  | ok text => exact toText_write text
  | error failure => rfl

/-! ### Expressions -/

/-- The text of an expression in a place, if all its literals have one. -/
def Dialect.expressionText (dialect : Dialect) (context : Context) (expression : Expression) :
    Except StatementError String :=
  (dialect.writeExpression context expression).toText

theorem appends_writeExpression (dialect : Dialect) (context : Context)
    (expression : Expression) : (dialect.writeExpression context expression).Appends := by
  induction expression with
  | binary operator left right leftAppends rightAppends =>
    exact appends_bind (appends_write _) fun _ =>
      appends_bind leftAppends fun _ =>
        appends_bind (appends_write _) fun _ =>
          appends_bind rightAppends fun _ => appends_write _
  | negation operand operandAppends =>
    exact appends_bind (appends_write _) fun _ => operandAppends
  | field name => exact appends_write _
  | literal value => exact appends_writeValue dialect context value

theorem expressionText_field (dialect : Dialect) (context : Context) (name : String) :
    dialect.expressionText context (.field name) = .ok (context.columnName name) :=
  toText_write _

theorem expressionText_literal (dialect : Dialect) (context : Context) (value : Value) :
    dialect.expressionText context (.literal value) =
      dialect.literal context.fragment.isKeyAssignment value :=
  toText_writeValue dialect context value

theorem expressionText_negation (dialect : Dialect) (context : Context) (operand : Expression) :
    dialect.expressionText context (.negation operand) = do
      let text ← dialect.expressionText context operand
      return " NOT " ++ text := by
  unfold Dialect.expressionText
  rw [Dialect.writeExpression, toText_bind _ _ (appends_writeExpression dialect context operand),
    toText_write]
  rfl

theorem expressionText_binary (dialect : Dialect) (context : Context) (operator : BinaryOperator)
    (left right : Expression) :
    dialect.expressionText context (.binary operator left right) = do
      let first ← dialect.expressionText context left
      let second ← dialect.expressionText context right
      return "(" ++ (first ++ (operator.text right.isNullLiteral ++ (second ++ ")"))) := by
  have leftAppends := appends_writeExpression dialect context left
  have rightAppends := appends_writeExpression dialect context right
  have closed : (dialect.writeExpression context right >>= fun _ => write ")").Appends :=
    appends_bind rightAppends fun _ => appends_write ")"
  have signed := appends_bind (appends_write (operator.text right.isNullLiteral)) fun _ => closed
  unfold Dialect.expressionText
  rw [Dialect.writeExpression, toText_bind _ _ (appends_bind leftAppends fun _ => signed),
    toText_bind _ _ signed, toText_bind _ _ closed, toText_bind _ _ (appends_write _),
    toText_write, toText_write, toText_write]
  cases (dialect.writeExpression context left).toText with
  | error failure => rfl
  | ok first => cases (dialect.writeExpression context right).toText <;> rfl

end SqlRecords
