/-
This file says what reaches the server when a record, a batch or a query is worked on in a
session. The statement is written completely first. If that fails, the failure is the result,
open or closed, and nothing is sent; if it succeeds on a closed session, the statement is refused
there; and if it succeeds on an open one, the text is sent once and takes one answer.

All this work has one shape: a statement is composed, sent, and something is made of the answer.
What it does to the session is said once for that shape, whatever is made of the answer.
-/

import SqlRecords.Proofs.Results
import SqlRecords.Session

namespace SqlRecords

namespace Session

/-! ### Composing and sending -/

theorem run_liftResult {Result : Type} (result : Except Error Result) (session : Session) :
    (liftResult result).run.run session = (result, session) := by
  cases result <;> rfl

theorem run_compose_of_ok {session : Session} {writer : Dialect → Writer Unit} {sql : String}
    (written : (writer session.driver.dialect).toText = .ok sql) (entries : List LogEntry) :
    ∃ log, (compose writer entries).run.run session = (.ok sql, { session with log := log }) := by
  refine ⟨session.log ++ entries ++ [⟨.debug, Text.excerpt sql⟩], ?_⟩
  rw [compose, run_bind_of_ok _ (run_get session), written]
  rfl

theorem run_compose_of_error {session : Session} {writer : Dialect → Writer Unit}
    {reason : StatementError}
    (failed : (writer session.driver.dialect).toText = .error reason) (entries : List LogEntry) :
    ∃ log, (compose writer entries).run.run session =
      (.error (.statement reason), { session with log := log }) := by
  refine ⟨session.log ++ reason.log, ?_⟩
  rw [compose, run_bind_of_ok _ (run_get session), failed]
  rfl

/-- A session after a statement was sent: the statement is the last that reached the server, and
the first of the answers that were queued is used up. -/
def submit (session : Session) (sql : String) : Session :=
  { session with
    events := session.events ++ [.statement sql]
    server := { session.server with queue := session.server.queue.tail } }

/-- The answer that the next statement takes. -/
def nextAnswer (session : Session) : List Answer :=
  session.server.queue.headD Server.defaultAnswer

theorem run_send_of_open (session : Session) (opened : session.isOpen = true) (sql : String) :
    (send sql).run.run session = (.ok session.nextAnswer, session.submit sql) := by
  rw [send, run_bind_of_ok _ (run_get session), if_pos opened]
  rfl

theorem run_send_of_closed (session : Session) (closed : session.isOpen = false) (sql : String) :
    ∃ log, (send sql).run.run session =
      (.ok [.error .connectionClosed], { session with log := log }) := by
  refine ⟨session.log ++ [⟨.error, Error.connectionClosed.message⟩], ?_⟩
  rw [send, run_bind_of_ok _ (run_get session), closed]
  rfl

/-! ### Going on from the answer -/

section Sending

variable {Result : Type}

/-- Composes a statement, sends it and makes something of the answer. -/
def sends (writer : Dialect → Writer Unit) (entries : List LogEntry)
    (finish : List Answer → Work Result) : Work Result := do
  let sql ← compose writer entries
  let answers ← send sql
  finish answers

/-- Whether work on an answer gives a result and otherwise only adds to the log. -/
def OnlyLogs (finish : List Answer → Work Result) (result : List Answer → Except Error Result) :
    Prop :=
  ∀ answers session, ∃ log,
    (finish answers).run.run session = (result answers, { session with log := log })

variable {writer : Dialect → Writer Unit} {finish : List Answer → Work Result}
  {result : List Answer → Except Error Result} {session : Session}

theorem onlyLogs_liftResult (result : List Answer → Except Error Result) :
    OnlyLogs (fun answers => liftResult (result answers)) result :=
  fun answers session => ⟨session.log, run_liftResult (result answers) session⟩

theorem run_sends_of_error {reason : StatementError} (entries : List LogEntry)
    (finish : List Answer → Work Result)
    (failed : (writer session.driver.dialect).toText = .error reason) :
    ∃ log, (sends writer entries finish).run.run session =
      (.error (.statement reason), { session with log := log }) := by
  obtain ⟨log, composed⟩ := run_compose_of_error failed entries
  exact ⟨log, run_bind_of_error _ composed⟩

theorem run_sends_of_closed {sql : String} (entries : List LogEntry)
    (only : OnlyLogs finish result) (written : (writer session.driver.dialect).toText = .ok sql)
    (closed : session.isOpen = false) :
    ∃ log, (sends writer entries finish).run.run session =
      (result [.error .connectionClosed], { session with log := log }) := by
  obtain ⟨written, composed⟩ := run_compose_of_ok written entries
  obtain ⟨refused, sent⟩ := run_send_of_closed { session with log := written } closed sql
  obtain ⟨log, finished⟩ := only [.error .connectionClosed] { session with log := refused }
  refine ⟨log, ?_⟩
  rw [sends, run_bind_of_ok _ composed, run_bind_of_ok _ sent, finished]

theorem run_sends_of_open {sql : String} (entries : List LogEntry)
    (only : OnlyLogs finish result) (written : (writer session.driver.dialect).toText = .ok sql)
    (opened : session.isOpen = true) :
    ∃ log, (sends writer entries finish).run.run session =
      (result session.nextAnswer, { session.submit sql with log := log }) := by
  obtain ⟨written, composed⟩ := run_compose_of_ok written entries
  have sent := run_send_of_open { session with log := written } opened sql
  obtain ⟨log, finished⟩ := only session.nextAnswer (submit { session with log := written } sql)
  refine ⟨log, ?_⟩
  rw [sends, run_bind_of_ok _ composed, run_bind_of_ok _ sent]
  exact finished

end Sending

/-! ### Submissions -/

/-- The work in a session that sends a statement of its own: changing rows, and fetching records
or their number. Records are fetched as soon as the first of them is asked for. -/
inductive Submission where
  | insertOne (table : Table) (row : List Value)
  | insertMany (table : Table) (rows : List (List Value))
  | insertManyWhere (table : Table) (rows : List (List Value)) (keep : List Value → Bool)
  | updateOne (table : Table) (row : List Value)
  | deleteOne (table : Table) (row : List Value)
  | fetch (query : Query) (most : Option Nat) (polled : most ≠ some 0)
  | count (query : Query)

namespace Submission

/-- Does the work. -/
def work : Submission → Work Outcome
  | insertOne table row => return .affected (← insert table [row])
  | insertMany table rows => return .affected (← insert table rows)
  | insertManyWhere table rows keep => return .affected (← insertWhere table rows keep)
  | updateOne table row => return .affected (← update table row)
  | deleteOne table row => return .affected (← delete table row)
  | fetch query most _ => return .records (← Session.fetch query most)
  | count query => return .number (← fetchCount query)

/-- Writes the statement. -/
def writer : Submission → Dialect → Writer Unit
  | insertOne table row, dialect => dialect.writeInsert table [row]
  | insertMany table rows, dialect => dialect.writeInsert table rows
  | insertManyWhere table rows keep, dialect => dialect.writeInsert table (rows.filter keep)
  | updateOne table row, dialect => dialect.writeUpdate table row
  | deleteOne table row, dialect => dialect.writeDelete table row
  | fetch query _ _, dialect => dialect.writeQuery query
  | count query, dialect => dialect.writeQuery query.count

/-- The result of work that ended in an error. Among records the error is the only item. -/
def failed (error : Error) : Submission → Except Error Outcome
  | fetch _ _ _ => .ok (.records [.error error])
  | _ => .error error

/-- The records of an answer up to the first error, at most a number of them. -/
def pulled (query : Query) (most : Option Nat) (answers : List Answer) :
    List (Except Error (List Value)) :=
  let records := untilError (query.source.materializeAll (Answer.rows answers))
  match most with
  | some most => records.take most
  | none => records

/-- The result of work whose statement was answered. -/
def answered (answers : List Answer) : Submission → Except Error Outcome
  | fetch query most _ => .ok (.records (pulled query most answers))
  | count _ => (Answer.number answers).map .number
  | _ => (Answer.affected answers).map .affected

/-- The lines of the log that stand before the statement. -/
def entries : Submission → List LogEntry
  | updateOne table _ => table.updateLog
  | _ => []

/-- Makes something of the answer. Building records adds to the log. -/
def finish : Submission → List Answer → Work Outcome
  | fetch query most _, answers => do
    noteAll (query.source.materializeAllLog
      ((Answer.rows answers).take (pulled query most answers).length))
    return .records (pulled query most answers)
  | submission, answers => liftResult (submission.answered answers)

/-- Puts an error in the place where the work reports it. -/
def reported (submission : Submission) : Except Error Outcome → Except Error Outcome
  | .ok outcome => .ok outcome
  | .error error => submission.failed error

theorem onlyLogs_finish (submission : Submission) :
    OnlyLogs submission.finish submission.answered := by
  cases submission with
  | fetch query most polled =>
    intro answers session
    exact ⟨_, rfl⟩
  | _ => exact onlyLogs_liftResult _

theorem reported_answered (submission : Submission) (answers : List Answer) :
    submission.reported (submission.answered answers) = submission.answered answers := by
  cases submission with
  | fetch query most polled => rfl
  | _ => simp only [reported, failed]; split <;> exact Eq.symm ‹_›

theorem answered_closed (submission : Submission) :
    submission.answered [.error .connectionClosed] = submission.failed .connectionClosed := by
  cases submission with
  | fetch query most polled =>
    have records : untilError (query.source.materializeAll
        (Answer.rows [.error .connectionClosed])) = [.error .connectionClosed] := rfl
    cases most with
    | none => rfl
    | some most =>
      have one : [(.error .connectionClosed : Except Error (List Value))].length ≤ most :=
        Nat.pos_of_ne_zero fun zero => polled (congrArg some zero)
      rw [answered, pulled, records]
      exact congrArg (fun items => Except.ok (Outcome.records items)) (List.take_of_length_le one)
  | _ => rfl

theorem liftResult_map {First Second : Type} (result : Except Error First)
    (change : First → Second) :
    (liftResult result >>= fun value => pure (change value)) = liftResult (result.map change) := by
  cases result <;> rfl

theorem compose_execute (writer : Dialect → Writer Unit) (entries : List LogEntry) :
    ((compose writer entries >>= execute) >>= fun counts => pure (.affected counts)) =
      sends writer entries fun answers =>
        liftResult ((Answer.affected answers).map Outcome.affected) := by
  simp only [sends, execute, bind_assoc, liftResult_map]

theorem fetchCount_eq_sends (query : Query) :
    (fetchCount query >>= fun number => pure (.number number)) =
      sends (·.writeQuery query.count) [] fun answers =>
        liftResult ((Answer.number answers).map Outcome.number) := by
  simp only [sends, fetchCount, bind_assoc, liftResult_map]

theorem fetchSome_eq_sends (query : Query) (most : Option Nat) (polled : most ≠ some 0) :
    (fetchSome query most >>= fun records => pure (.records records)) =
      sends (·.writeQuery query) [] (finish (fetch query most polled)) := by
  simp only [sends, fetchSome, finish, bind_assoc, pure_bind]
  rfl

theorem run_fetch (query : Query) (most : Option Nat) (polled : most ≠ some 0)
    (session : Session) :
    (work (fetch query most polled)).run.run session =
      Prod.map (reported (fetch query most polled)) id
        ((sends (·.writeQuery query) [] (finish (fetch query most polled))).run.run session) := by
  rw [work, Session.fetch, if_neg polled, ← fetchSome_eq_sends]
  cases fetched : (fetchSome query most).run.run session with
  | mk result after =>
    cases result with
    | ok records =>
      rw [run_bind_of_ok _ fetched, run_bind_of_ok _ (run_tryCatch_of_ok _ fetched)]
      rfl
    | error error =>
      have handled := run_tryCatch_of_error (fun error => pure [.error error]) fetched
      rw [run_bind_of_error _ fetched, run_bind_of_ok _ handled]
      rfl

theorem work_eq_sends (submission : Submission)
    (changes : ∀ query most polled, submission ≠ fetch query most polled) :
    submission.work = sends submission.writer submission.entries submission.finish := by
  cases submission with
  | fetch query most polled => exact absurd rfl (changes query most polled)
  | count query => exact fetchCount_eq_sends query
  | insertOne table row => exact compose_execute (·.writeInsert table [row]) []
  | insertMany table rows => exact compose_execute (·.writeInsert table rows) []
  | insertManyWhere table rows keep =>
    exact compose_execute (·.writeInsert table (rows.filter keep)) []
  | updateOne table row => exact compose_execute (·.writeUpdate table row) table.updateLog
  | deleteOne table row => exact compose_execute (·.writeDelete table row) []

theorem reported_eq_id (submission : Submission)
    (changes : ∀ query most polled, submission ≠ fetch query most polled) :
    submission.reported = id := by
  funext result
  cases submission with
  | fetch query most polled => exact absurd rfl (changes query most polled)
  | _ => cases result <;> rfl

theorem run_change (submission : Submission)
    (changes : ∀ query most polled, submission ≠ fetch query most polled) (session : Session) :
    submission.work.run.run session =
      Prod.map submission.reported id
        ((sends submission.writer submission.entries submission.finish).run.run session) := by
  rw [work_eq_sends submission changes, reported_eq_id submission changes, Prod.map_id]
  rfl

theorem run_work (submission : Submission) (session : Session) :
    submission.work.run.run session =
      Prod.map submission.reported id
        ((sends submission.writer submission.entries submission.finish).run.run session) := by
  cases submission with
  | fetch query most polled => exact run_fetch query most polled session
  | _ => exact run_change _ (by rintro _ _ _ ⟨⟩) session

theorem run_work_of_error {submission : Submission} {session : Session} {reason : StatementError}
    (refused : (submission.writer session.driver.dialect).toText = .error reason) :
    ∃ log, submission.work.run.run session =
      (submission.failed (.statement reason), { session with log := log }) := by
  obtain ⟨log, sent⟩ := run_sends_of_error submission.entries submission.finish refused
  exact ⟨log, by rw [run_work, sent, Prod.map_apply]; rfl⟩

theorem run_work_of_closed {submission : Submission} {session : Session} {sql : String}
    (written : (submission.writer session.driver.dialect).toText = .ok sql)
    (closed : session.isOpen = false) :
    ∃ log, submission.work.run.run session =
      (submission.failed .connectionClosed, { session with log := log }) := by
  obtain ⟨log, sent⟩ :=
    run_sends_of_closed submission.entries submission.onlyLogs_finish written closed
  exact ⟨log, by rw [run_work, sent, Prod.map_apply, reported_answered, answered_closed]; rfl⟩

theorem run_work_of_open {submission : Submission} {session : Session} {sql : String}
    (written : (submission.writer session.driver.dialect).toText = .ok sql)
    (opened : session.isOpen = true) :
    ∃ log, submission.work.run.run session =
      (submission.answered session.nextAnswer, { session.submit sql with log := log }) := by
  obtain ⟨log, sent⟩ :=
    run_sends_of_open submission.entries submission.onlyLogs_finish written opened
  exact ⟨log, by rw [run_work, sent, Prod.map_apply, reported_answered]; rfl⟩

end Submission

/-- A statement reaches the server completely or not at all. -/
theorem submits_completely_or_nothing (session : Session) (submission : Submission) :
    (∀ reason, (submission.writer session.driver.dialect).toText = .error reason →
      ∃ log, submission.work.run.run session =
        (submission.failed (.statement reason), { session with log := log })) ∧
    (∀ sql, (submission.writer session.driver.dialect).toText = .ok sql →
      (session.isOpen = false →
        ∃ log, submission.work.run.run session =
          (submission.failed .connectionClosed, { session with log := log })) ∧
      (session.isOpen = true →
        ∃ log, submission.work.run.run session =
          (submission.answered session.nextAnswer,
            { session with
              events := session.events ++ [.statement sql]
              server := { session.server with queue := session.server.queue.tail }
              log := log }))) ∧
    ∀ query, (Session.fetch query (some 0)).run.run session = (.ok [], session) := by
  refine ⟨fun _ => Submission.run_work_of_error, fun sql written => ⟨?_, ?_⟩, fun _ => rfl⟩
  · exact Submission.run_work_of_closed written
  · exact Submission.run_work_of_open written

-- What cannot be written is not refused for the closed connection.
example :
    ((delete ⟨"T", []⟩ []).run.run (ofUrl (.recording .standard) "recording://h" .fresh)).1 =
      .error (.statement (.missingPrimaryKey "T")) := rfl

end Session

end SqlRecords
