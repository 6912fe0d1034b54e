/-
This file says which records a query gives that was answered. The counts of the answer are passed
over. Every row on its own becomes a record or an error, and an error in place of a row stays one.
Only then, and only for a query, do the records end with the first error; so whoever builds records
from rows without a query gets one result for each of them, whatever went wrong before.
-/

import SqlRecords.Proofs.Session.Submission

namespace SqlRecords

/-! ### Rows among the items of an answer -/

/-- Whether an item of an answer is a count of changed rows. -/
def Answer.isCount : Answer → Bool
  | .ok (.affected _) => true
  | _ => false

theorem map_row_rows (answers : List Answer) :
    (Answer.rows answers).map (Except.map ResultItem.row) =
      answers.filter fun answer => !answer.isCount := by
  induction answers with
  | nil => rfl
  | cons answer rest inductionHypothesis =>
    rcases answer with error | row | counts
    · exact congrArg (.error error :: ·) inductionHypothesis
    · exact congrArg (.ok (.row row) :: ·) inductionHypothesis
    · exact inductionHypothesis

/-! ### Records one by one -/

/-- What becomes of a row that may be an error: its record, the reason why it is none, or the error
itself. -/
inductive Table.Yields (table : Table) :
    Except Error ResultRow → Except Error (List Value) → Prop
  | record {row : ResultRow} {record : List Value} (built : table.materialize row = .ok record) :
    Yields table (.ok row) (.ok record)
  | refused {row : ResultRow} {reason : RecordError}
    (refused : table.materialize row = .error reason) :
    Yields table (.ok row) (.error (.record reason))
  | failed (error : Error) : Yields table (.error error) (.error error)

theorem yields_materializeItem (table : Table) (row : Except Error ResultRow) :
    table.Yields row (table.materializeItem row) := by
  cases row with
  | error error => exact .failed error
  | ok row =>
    show table.Yields (.ok row) ((table.materialize row).mapError .record)
    cases built : table.materialize row with
    | error reason => exact .refused built
    | ok record => exact .record built

theorem yields_materializeAll (table : Table) (rows : List (Except Error ResultRow)) :
    List.Forall₂ table.Yields rows (table.materializeAll rows) := by
  unfold Table.materializeAll
  rw [List.forall₂_map_right_iff, List.forall₂_same]
  exact fun row _ => yields_materializeItem table row

theorem getElem?_materializeAll_congr (table : Table) {rows others : List (Except Error ResultRow)}
    {position : Nat} (same : rows[position]? = others[position]?) :
    (table.materializeAll rows)[position]? = (table.materializeAll others)[position]? := by
  unfold Table.materializeAll
  rw [List.getElem?_map, List.getElem?_map, same]

/-! ### Records up to the first error -/

/-- How a list of items that may be errors is cut: not at all without an error, and behind the first
one otherwise. -/
inductive CutAtError {Item : Type} : List (Except Error Item) → List (Except Error Item) → Prop
  | whole (items : List Item) : CutAtError (items.map .ok) (items.map .ok)
  | cut (items : List Item) (error : Error) (rest : List (Except Error Item)) :
    CutAtError (items.map .ok ++ .error error :: rest) (items.map .ok ++ [.error error])

theorem untilError_append {Item : Type} (items : List Item) (rest : List (Except Error Item)) :
    untilError (items.map .ok ++ rest) = items.map .ok ++ untilError rest := by
  induction items with
  | nil => rfl
  | cons item items inductionHypothesis =>
    exact congrArg (.ok item :: ·) inductionHypothesis

theorem cutAtError_untilError {Item : Type} (results : List (Except Error Item)) :
    CutAtError results (untilError results) := by
  rcases split_at_failure results with ⟨items, rfl⟩ | ⟨items, error, rest, rfl⟩
  · have none := untilError_append items []
    rw [untilError, List.append_nil] at none
    rw [none]
    exact .whole items
  · rw [untilError_append]
    exact .cut items error rest

/-! ### Fetching -/

namespace Session

theorem run_fetchSome_of_open {session : Session} {query : Query} {sql : String}
    (most : Option Nat) (opened : session.isOpen = true)
    (written : (session.driver.dialect.writeQuery query).toText = .ok sql) :
    ∃ after, (fetchSome query most).run.run session =
      (.ok (Submission.pulled query most session.nextAnswer), after) := by
  have only : OnlyLogs (fun answers => do
      noteAll (query.source.materializeAllLog
        ((Answer.rows answers).take (Submission.pulled query most answers).length))
      return Submission.pulled query most answers)
      (fun answers => .ok (Submission.pulled query most answers)) :=
    fun answers session => ⟨_, rfl⟩
  obtain ⟨log, ran⟩ :=
    @run_sends_of_open _ (·.writeQuery query) _ _ session sql [] only written opened
  exact ⟨_, ran⟩

theorem result_fetch_of_open {session : Session} {query : Query} {sql : String}
    (most : Option Nat) (opened : session.isOpen = true)
    (written : (session.driver.dialect.writeQuery query).toText = .ok sql) :
    ((fetch query most).run.run session).1 =
      .ok (Submission.pulled query most session.nextAnswer) := by
  unfold fetch
  split
  case isTrue none =>
    subst none
    rfl
  case isFalse some =>
    obtain ⟨after, ran⟩ := run_fetchSome_of_open most opened written
    rw [run_tryCatch_of_ok _ ran]

/-- A query that was sent gives the records of the rows of its answer up to the first error, as
many of them as are pulled. Rows without a query give one result each, which depends on no other
row. -/
theorem fetch_yields_until_error :
    (∀ (session : Session) (query : Query) (sql : String), session.isOpen = true →
      (session.driver.dialect.writeQuery query).toText = .ok sql →
      ∃ rows results whole,
        rows.map (Except.map ResultItem.row) =
          session.nextAnswer.filter (fun answer => !answer.isCount) ∧
        List.Forall₂ query.source.Yields rows results ∧ CutAtError results whole ∧
        ((fetch query none).run.run session).1 = .ok whole ∧
        (∀ most, ((fetch query (some most)).run.run session).1 = .ok (whole.take most)) ∧
        query.source.materializeAll rows = results) ∧
    ∀ (table : Table) (rows : List (Except Error ResultRow)),
      List.Forall₂ table.Yields rows (table.materializeAll rows) ∧
      ∀ (others : List (Except Error ResultRow)) (position : Nat),
        rows[position]? = others[position]? →
        (table.materializeAll rows)[position]? = (table.materializeAll others)[position]? := by
  refine ⟨fun session query sql opened written => ?_, fun table rows => ⟨?_, ?_⟩⟩
  · refine ⟨Answer.rows session.nextAnswer, _, _, map_row_rows _, yields_materializeAll _ _,
      cutAtError_untilError _, ?_, fun most => ?_, rfl⟩
    · exact result_fetch_of_open none opened written
    · exact result_fetch_of_open (some most) opened written
  · exact yields_materializeAll table rows
  · exact fun others position same => getElem?_materializeAll_congr table same

/-- An open session whose connection is lost between two rows of the next answer, which begins with
a count. -/
def interrupted : Session :=
  ofConnection (.recording .standard) "recording://h"
    ⟨[[.ok (.affected .none), .ok (.row ⟨["name"], [.text (some "Ann")]⟩),
      .error (.remote "lost"), .ok (.row ⟨["name"], [.text (some "Bob")]⟩)]], none, none⟩

/-- The query for all records of a table with one column that takes any value. -/
def allNames : Query :=
  .all ⟨"T", [{ field := "name", name := "name" }]⟩

/-- Two errors in place of rows, the second of which is also the second of that answer. -/
def lostTwice : List (Except Error ResultRow) :=
  [.error .connectionClosed, .error (.remote "lost")]

theorem fetch_yields_until_error_interrupted :
    (interrupted.isOpen = true ∧
    (interrupted.driver.dialect.writeQuery allNames).toText = .ok "SELECT * FROM T" ∧
    ∃ rows results whole,
      rows.map (Except.map ResultItem.row) =
        interrupted.nextAnswer.filter (fun answer => !answer.isCount) ∧
      List.Forall₂ allNames.source.Yields rows results ∧ CutAtError results whole ∧
      ((fetch allNames none).run.run interrupted).1 = .ok whole ∧
      (∀ most, ((fetch allNames (some most)).run.run interrupted).1 = .ok (whole.take most)) ∧
      allNames.source.materializeAll rows = results) ∧
    (Answer.rows interrupted.nextAnswer)[1]? = lostTwice[1]? ∧
    (allNames.source.materializeAll (Answer.rows interrupted.nextAnswer))[1]? =
      (allNames.source.materializeAll lostTwice)[1]? := by
  have written : (interrupted.driver.dialect.writeQuery allNames).toText =
      .ok "SELECT * FROM T" := rfl
  refine ⟨⟨rfl, written, ?_⟩, rfl, ?_⟩
  · exact fetch_yields_until_error.1 interrupted allNames _ rfl written
  · exact (fetch_yields_until_error.2 allNames.source _).2 lostTwice 1 rfl

-- The row behind the error is not among the records, and the count before them leaves no trace.
example : ((fetch allNames none).run.run interrupted).1 =
    .ok [.ok [.text (some "Ann")], .error (.remote "lost")] := rfl

end Session

end SqlRecords
