/-
This file says that whatever is written is written behind any text as it is written on its own.
The text that was there before stays as it is and decides nothing, also where the writing fails
midway.

Most writers never look at the text they continue, and a list looks at what it added itself. A
sort key does look back, for the blank behind the key before it, and must not find one in the text
that the query began on. By then the query has written something of its own, so what is carried
from clause to clause is how a writer behaves behind a text of its own.
-/

import SqlRecords.Proofs.Sql.KeyedStatement
import SqlRecords.Proofs.Sql.SelectStatement

namespace SqlRecords

namespace TextWriter

variable {Failure First Second : Type}

/-! ### Writers that look back -/

/-- A writer that may look back into a text of its own, but not past the beginning of it: with
more in front of that text it does what it does without, and it never takes the whole text back. -/
structure AppendsBehindText (writer : TextWriter Failure First) : Prop where
  run_append : ∀ before own : String, own ≠ "" →
    writer.run.run (before ++ own) =
      ((writer.run.run own).1, before ++ (writer.run.run own).2)
  ne_empty : ∀ own : String, own ≠ "" → (writer.run.run own).2 ≠ ""

theorem appendsBehindText_of_appends {writer : TextWriter Failure First}
    (appends : writer.Appends) : writer.AppendsBehindText := by
  constructor
  · intro before own _
    rw [appends (before ++ own), appends own, String.append_assoc]
  · intro own nonempty
    rw [appends own]
    exact fun empty => nonempty (String.append_eq_empty_iff.mp empty).1

theorem appendsBehindText_bind {writer : TextWriter Failure First}
    {next : First → TextWriter Failure Second} (first : writer.AppendsBehindText)
    (second : ∀ value, (next value).AppendsBehindText) :
    (writer >>= next).AppendsBehindText := by
  constructor
  · intro before own nonempty
    have start := first.run_append before own nonempty
    have left := first.ne_empty own nonempty
    rcases result : writer.run.run own with ⟨failure | value, text⟩
    · rw [result] at start
      rw [run_bind_of_error next start, run_bind_of_error next result]
    · rw [result] at start left
      rw [run_bind_of_ok next start, run_bind_of_ok next result]
      exact (second value).run_append before text left
  · intro own nonempty
    have left := first.ne_empty own nonempty
    rcases result : writer.run.run own with ⟨failure | value, text⟩
    · rw [result] at left
      rw [run_bind_of_error next result]
      exact left
    · rw [result] at left
      rw [run_bind_of_ok next result]
      exact (second value).ne_empty text left

/-- Behind a piece of text that it wrote itself, a writer may look back. -/
theorem appends_write_bind {piece : String} (nonempty : piece ≠ "")
    {next : Unit → TextWriter Failure Second} (behind : (next ()).AppendsBehindText) :
    (write piece >>= next).Appends := by
  intro before
  have started := behind.run_append before piece nonempty
  rw [run_bind_of_ok next (run_write piece before), run_bind_of_ok next (run_write piece ""),
    String.empty_append]
  exact started

end TextWriter

open TextWriter

/-! ### Queries -/

theorem appendsBehindText_lookBack :
    (do
      modify dropFinalBlank
      write ", " : Writer Unit).AppendsBehindText := by
  have written (text : String) :
      (do
        modify dropFinalBlank
        write ", " : Writer Unit).run.run text = (.ok (), dropFinalBlank text ++ ", ") := rfl
  constructor
  · intro before own nonempty
    rw [written, written, dropFinalBlank_append before own nonempty, String.append_assoc]
  · intro own _
    rw [written]
    exact fun empty => absurd (String.append_eq_empty_iff.mp empty).2 (by decide)

theorem appendsBehindText_writeOrderMark (fragment : Fragment) :
    (writeOrderMark fragment).AppendsBehindText := by
  unfold writeOrderMark
  split
  · exact appendsBehindText_of_appends (appends_write _)
  · exact appendsBehindText_of_appends (appends_write _)
  · exact appendsBehindText_lookBack
  · exact appendsBehindText_of_appends (appends_throw _)

/-- One clause: of all clauses only sort keys look back. -/
theorem appendsBehindText_writeClause (dialect : Dialect) (table : Table) (fragment : Fragment)
    (clause : Clause) : (dialect.writeClause table fragment clause).AppendsBehindText := by
  cases clause with
  | filter predicate =>
    have behind {mark : Writer Unit} (appends : mark.Appends) :
        (do
          mark
          dialect.writeExpression ⟨.selectWhere, some table⟩ predicate
          return Fragment.selectWhere : Writer Fragment).Appends :=
      appends_bind appends fun _ =>
        appends_bind (appends_writeExpression dialect _ predicate) fun _ => appends_pure _
    refine appendsBehindText_of_appends ?_
    cases fragment with
    | selectFrom => exact behind (appends_write " WHERE ")
    | selectWhere => exact behind (appends_write " AND ")
    | _ => exact behind (appends_throw StatementError.filterTooLate)
  | orderBy key =>
    refine appendsBehindText_bind (appendsBehindText_writeOrderMark fragment) fun _ => ?_
    exact appendsBehindText_of_appends
      (appends_bind (appends_writeExpression dialect _ key) fun _ => appends_pure _)
  | orderByDescending key =>
    refine appendsBehindText_bind (appendsBehindText_writeOrderMark fragment) fun _ => ?_
    exact appendsBehindText_of_appends
      (appends_bind (appends_writeExpression dialect _ key) fun _ =>
        appends_bind (appends_write _) fun _ => appends_pure _)
  | limit count =>
    have written : (do
        write (" LIMIT " ++ toString count)
        return Fragment.selectLimit : Writer Fragment).Appends :=
      appends_bind (appends_write _) fun _ => appends_pure _
    refine appendsBehindText_of_appends ?_
    rw [Dialect.writeClause]
    split
    · exact appends_bind (appends_throw StatementError.secondLimit) fun _ => written
    · exact written
  | count => exact appendsBehindText_of_appends (appends_pure _)

/-- Any number of clauses. -/
theorem appendsBehindText_writeClauses (dialect : Dialect) (table : Table) (fragment : Fragment)
    (clauses : List Clause) :
    (dialect.writeClauses table fragment clauses).AppendsBehindText := by
  induction clauses generalizing fragment with
  | nil => exact appendsBehindText_of_appends (appends_pure ())
  | cons clause rest inductionHypothesis =>
    exact appendsBehindText_bind (appendsBehindText_writeClause dialect table fragment clause)
      inductionHypothesis

theorem appends_writeQuery (dialect : Dialect) (query : Query) :
    (dialect.writeQuery query).Appends := by
  have clauses :=
    appendsBehindText_writeClauses dialect query.source .selectFrom query.clauses
  have behindName := appendsBehindText_bind
    (appendsBehindText_of_appends (appends_write query.source.name)) fun _ => clauses
  have behindStart := appendsBehindText_bind
    (appendsBehindText_of_appends (appends_write " FROM ")) fun _ => behindName
  refine appends_write_bind ?_ behindStart
  split <;> decide

/-! ### Everything that is written -/

/-- What a writer is given to write. -/
inductive WriterInput where
  | value (context : Context) (value : Value)
  | expression (context : Context) (expression : Expression)
  | query (query : Query)
  | insert (table : Table) (rows : List (List Value))
  | update (table : Table) (row : List Value)
  | delete (table : Table) (row : List Value)

/-- Writes what is given. -/
def WriterInput.write (dialect : Dialect) : WriterInput → Writer Unit
  | value context given => dialect.writeValue context given
  | expression context given => dialect.writeExpression context given
  | query given => dialect.writeQuery given
  | insert table rows => dialect.writeInsert table rows
  | update table row => dialect.writeUpdate table row
  | delete table row => dialect.writeDelete table row

theorem appends_writerInput (dialect : Dialect) (input : WriterInput) :
    (input.write dialect).Appends := by
  cases input with
  | value context value => exact appends_writeValue dialect context value
  | expression context expression => exact appends_writeExpression dialect context expression
  | query query => exact appends_writeQuery dialect query
  | insert table rows => exact appends_writeInsert dialect table rows
  | update table row => exact appends_writeUpdate dialect table row
  | delete table row => exact appends_writeDelete dialect table row

/-- Whatever is written, and whatever text it is written behind: it succeeds or fails as it does
on its own, and leaves that text with what it leaves on its own behind it. -/
theorem runOn_write_behind (dialect : Dialect) (input : WriterInput) (before : String) :
    (input.write dialect).runOn before =
      (((input.write dialect).runOn "").1, before ++ ((input.write dialect).runOn "").2) :=
  appends_writerInput dialect input before

-- The blank at the end of the text is not the one behind a descending key.
example :
    (Dialect.standard.writeQuery ⟨⟨"T", []⟩,
        [.orderByDescending (.field "a"), .orderBy (.field "b")]⟩).runOn " " =
      (.ok (), " SELECT * FROM T ORDER BY a DESC, b") := rfl

end SqlRecords
