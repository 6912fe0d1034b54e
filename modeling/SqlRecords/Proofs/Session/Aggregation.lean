/-
This file says what a whole answer comes down to where no records are made of it: to one count of
changed rows, to a single value or to a number of records.

Each of them has a rule of its own for what ends the reading. Counts are added up to the first
error. A single value is found at the first row or error, so that nothing behind it matters. A
number is made of such a value, and there is none if the value stands for none in range.
-/

import Mathlib.Algebra.GroupWithZero.Nat
import SqlRecords.Proofs.Session.Submission
import SqlRecords.Proofs.Value.WholeNumber

namespace SqlRecords

/-! ### Adding up counts -/

namespace RowsAffected

/-- Counts are summed up. Of the identifiers the last is kept that any of them has. -/
theorem extend_eq (start : RowsAffected) (items : List RowsAffected) :
    start.extend items =
      ⟨start.count + (items.map count).sum, (items.filterMap lastId).getLast?.or start.lastId⟩ := by
  induction items generalizing start with
  | nil => rfl
  | cons item rest inductionHypothesis =>
    show (start.add item).extend rest = _
    rw [inductionHypothesis, List.map_cons, List.sum_cons, ← Nat.add_assoc]
    congr 1
    cases given : item.lastId with
    | none => simp [add, given]
    | some identifier =>
      cases later : (rest.filterMap lastId).getLast? <;>
        simp [add, given, later, List.getLast?_cons]

theorem extend_append (start : RowsAffected) (first second : List RowsAffected) :
    start.extend (first ++ second) = (start.extend first).extend second :=
  List.foldl_append

/-- Counts may be added in any number of portions. -/
theorem foldl_extend (start : RowsAffected) (groups : List (List RowsAffected)) :
    groups.foldl extend start = start.extend groups.flatten :=
  List.foldl_flatten.symm

/-- Counts that were added up on their own can be added instead of them. -/
theorem add_none_extend (start : RowsAffected) (parts : List RowsAffected) :
    start.add (none.extend parts) = start.extend parts := by
  rw [extend_eq, extend_eq, add, none, Nat.zero_add, Option.or_none]
  cases (parts.filterMap lastId).getLast? <;> rfl

end RowsAffected

/-- The counts of an item that is no row. -/
def ResultItem.counts? : ResultItem → Option RowsAffected
  | row _ => none
  | affected counts => some counts

namespace Answer

/-- What the counts of an answer come down to: its first error, or the sum of the counts and the
last identifier that one of them has. Rows are passed over. -/
inductive AddsUp : List Answer → Except Error RowsAffected → Prop
  | total (items : List ResultItem) {counted : List RowsAffected}
    (counting : items.filterMap ResultItem.counts? = counted) :
    AddsUp (items.map .ok)
      (.ok ⟨(counted.map RowsAffected.count).sum,
        (counted.filterMap RowsAffected.lastId).getLast?⟩)
  | failed (items : List ResultItem) (error : Error) (rest : List Answer) :
    AddsUp (items.map .ok ++ .error error :: rest) (.error error)

theorem counts_append (first second : List Answer) :
    counts (first ++ second) = counts first ++ counts second :=
  List.filterMap_append

theorem counts_of_all_ok (items : List ResultItem) :
    counts (items.map .ok) = (items.filterMap ResultItem.counts?).map .ok := by
  unfold counts
  rw [List.filterMap_map, List.map_filterMap]
  congr 1
  funext item
  cases item <;> rfl

theorem addsUp_affected (answers : List Answer) : AddsUp answers (affected answers) := by
  unfold affected
  rcases split_at_failure answers with ⟨items, rfl⟩ | ⟨items, error, rest, rfl⟩
  · rw [counts_of_all_ok, mapM_id_of_all_ok]
    show AddsUp _ (.ok (RowsAffected.none.extend _))
    rw [RowsAffected.extend_eq, RowsAffected.none, Nat.zero_add, Option.or_none]
    exact .total items rfl
  · rw [counts_append, counts_of_all_ok]
    show AddsUp _ ((List.mapM id (_ ++ Except.error error :: counts rest)).map _)
    rw [mapM_id_of_failure]
    exact .failed items error rest

/-- The items of an answer that count changed rows. -/
def ofCounts (parts : List RowsAffected) : List Answer :=
  parts.map fun part => .ok (.affected part)

theorem counts_ofCounts (parts : List RowsAffected) :
    counts (ofCounts parts) = parts.map .ok := by
  unfold counts ofCounts
  rw [List.filterMap_map, ← List.filterMap_eq_map]
  rfl

/-- A count may be split over any number of items. -/
theorem affected_split (before after : List Answer) (parts : List RowsAffected) :
    affected (before ++ ofCounts parts ++ after) =
      affected (before ++ .ok (.affected (RowsAffected.none.extend parts)) :: after) := by
  show _ = affected (before ++ (ofCounts [RowsAffected.none.extend parts] ++ after))
  unfold affected
  simp only [counts_append, counts_ofCounts, List.append_assoc, List.mapM_append, mapM_id_of_all_ok]
  rcases (counts before).mapM id with error | first
  · rfl
  · rcases (counts after).mapM id with error | last
    · rfl
    · show Except.ok _ = Except.ok _
      rw [RowsAffected.extend_append, RowsAffected.extend_append, RowsAffected.extend_append,
        RowsAffected.extend_append, ← RowsAffected.add_none_extend _ parts]
      rfl

/-! ### Single values -/

/-- What the first value of an answer is: counts are passed over, the first row or error ends the
reading. -/
inductive FirstValue : List Answer → Except Error Value → Prop
  | nothing (parts : List RowsAffected) : FirstValue (ofCounts parts) (.ok .null)
  | failed (parts : List RowsAffected) (error : Error) (rest : List Answer) :
    FirstValue (ofCounts parts ++ .error error :: rest) (.error error)
  | emptyRow (parts : List RowsAffected) (labels : List String) (rest : List Answer) :
    FirstValue (ofCounts parts ++ .ok (.row ⟨labels, []⟩) :: rest) (.ok .null)
  | value (parts : List RowsAffected) (labels : List String) (first : Value) (others : List Value)
    (rest : List Answer) :
    FirstValue (ofCounts parts ++ .ok (.row ⟨labels, first :: others⟩) :: rest) (.ok first)

theorem FirstValue.behind_count {answers : List Answer} {result : Except Error Value}
    (counts : RowsAffected) (found : FirstValue answers result) :
    FirstValue (.ok (.affected counts) :: answers) result := by
  cases found with
  | nothing parts => exact .nothing (counts :: parts)
  | failed parts error rest => exact .failed (counts :: parts) error rest
  | emptyRow parts labels rest => exact .emptyRow (counts :: parts) labels rest
  | value parts labels first others rest => exact .value (counts :: parts) labels first others rest

theorem firstValue_scalar (answers : List Answer) : FirstValue answers (scalar answers) := by
  induction answers with
  | nil => exact .nothing []
  | cons answer rest inductionHypothesis =>
    rcases answer with error | row | counts
    · exact .failed [] error rest
    · obtain ⟨labels, values⟩ := row
      cases values with
      | nil => exact .emptyRow [] labels rest
      | cons first others => exact .value [] labels first others rest
    · exact inductionHypothesis.behind_count counts

/-! ### Numbers of records -/

/-- What number of records a single value gives: none for a null of any type, and otherwise the
number that it stands for, which must be one of sixty-four bits. -/
inductive Numbers : Except Error Value → Except Error Nat → Prop
  | failed (error : Error) : Numbers (.error error) (.error error)
  | null {value : Value} (isNull : value.isNull = true) : Numbers (.ok value) (.ok 0)
  | number {value : Value} {number : Nat} (present : value.isNull = false)
    (stands : value.Denotes .uint64 number) (fits : number < 2 ^ 64) :
    Numbers (.ok value) (.ok number)
  | refused {value : Value} {reason : ConversionError} (present : value.isNull = false)
    (nothing : ∀ number : Nat, number < 2 ^ 64 → ¬ value.Denotes .uint64 number) :
    Numbers (.ok value) (.error (.conversion reason))

theorem numbers_number (answers : List Answer) : Numbers (scalar answers) (number answers) := by
  unfold number
  rcases scalar answers with error | value
  · exact .failed error
  · show Numbers (.ok value) (if value.isNull then _ else _)
    split
    case isTrue isNull => exact .null isNull
    case isFalse present =>
      rw [Bool.not_eq_true] at present
      cases read : Conversion.integerOfValue .uint64 value with
      | error reason =>
        refine .refused present fun number fits => ?_
        have limit : (number : Int) ≤ 18446744073709551615 := by omega
        exact Conversion.not_denotes_of_refused read (Int.natCast_nonneg number) limit
      | ok integer =>
        have denoted := (Conversion.integerOfValue_eq_ok_iff value integer).mp read
        have positive : 0 ≤ integer.value := integer.least_le
        have limit : integer.value ≤ 18446744073709551615 := integer.le_greatest
        have whole : (integer.value.toNat : Int) = integer.value := Int.toNat_of_nonneg positive
        exact .number present (whole ▸ denoted) (by omega)

end Answer

/-! ### In a session -/

namespace Session

variable {session : Session}

theorem run_send_liftResult {Result : Type} (opened : session.isOpen = true) (sql : String)
    (result : List Answer → Except Error Result) :
    (send sql >>= fun answers => liftResult (result answers)).run.run session =
      (result session.nextAnswer, session.submit sql) := by
  rw [run_bind_of_ok _ (run_send_of_open session opened sql), run_liftResult]

theorem step_execute_of_open (opened : session.isOpen = true) (sql : String) :
    step session (.execute sql) =
      ((Answer.affected session.nextAnswer).map .affected, session.submit sql) := by
  unfold step perform execute
  simp only [bind_assoc, Submission.liftResult_map]
  exact run_send_liftResult opened sql _

theorem step_scalar_of_open (opened : session.isOpen = true) (sql : String) :
    step session (.scalar sql) =
      ((Answer.scalar session.nextAnswer).map .value, session.submit sql) := by
  unfold step perform
  simp only [Submission.liftResult_map]
  exact run_send_liftResult opened sql _

theorem step_count_of_open (opened : session.isOpen = true) {query : Query} {sql : String}
    (written : (session.driver.dialect.writeQuery query.count).toText = .ok sql) :
    ∃ log, step session (.count query) =
      ((Answer.number session.nextAnswer).map .number, { session.submit sql with log := log }) :=
  @Submission.run_work_of_open (.count query) session sql written opened

/-- What an answer comes down to. Executing a statement gives the first error or all counts
together, however they were split; a single value is the first there is; and a number of records is
the number that such a value stands for. -/
theorem answer_aggregates :
    (∀ answers : List Answer, Answer.AddsUp answers (Answer.affected answers) ∧
      Answer.FirstValue answers (Answer.scalar answers) ∧
      Answer.Numbers (Answer.scalar answers) (Answer.number answers)) ∧
    (∀ (before after : List Answer) (parts : List RowsAffected),
      Answer.affected (before ++ Answer.ofCounts parts ++ after) =
        Answer.affected (before ++ .ok (.affected (RowsAffected.none.extend parts)) :: after)) ∧
    (∀ (start : RowsAffected) (groups : List (List RowsAffected)),
      groups.foldl RowsAffected.extend start = start.extend groups.flatten) ∧
    ∀ session : Session, session.isOpen = true →
      (∀ sql, (step session (.execute sql)).1 =
        (Answer.affected session.nextAnswer).map .affected) ∧
      (∀ sql, (step session (.scalar sql)).1 = (Answer.scalar session.nextAnswer).map .value) ∧
      ∀ query sql, (session.driver.dialect.writeQuery query.count).toText = .ok sql →
        (step session (.count query)).1 = (Answer.number session.nextAnswer).map .number := by
  refine ⟨fun answers => ⟨?_, ?_, ?_⟩, Answer.affected_split, RowsAffected.foldl_extend,
    fun session opened => ⟨fun sql => ?_, fun sql => ?_, fun query sql written => ?_⟩⟩
  · exact Answer.addsUp_affected answers
  · exact Answer.firstValue_scalar answers
  · exact Answer.numbers_number answers
  · rw [step_execute_of_open opened]
  · rw [step_scalar_of_open opened]
  · obtain ⟨log, stepped⟩ := step_count_of_open opened written
    rw [stepped]

/-- An open session with an answer that changes rows before and behind the row that it has. -/
def tallied : Session :=
  ofConnection (.recording .mysql) "recording://h"
    ⟨[[.ok (.affected ⟨2, some 7⟩), .ok (.row ⟨["n"], [.text (some " +12 ")]⟩),
      .ok (.affected ⟨3, none⟩)]], none, none⟩

theorem answer_aggregates_tallied :
    tallied.isOpen = true ∧
    (tallied.driver.dialect.writeQuery (Query.all ⟨"T", []⟩).count).toText =
      .ok "SELECT COUNT(*) FROM T" ∧
    (∀ sql, (step tallied (.execute sql)).1 = .ok (.affected ⟨5, some 7⟩)) ∧
    (∀ sql, (step tallied (.scalar sql)).1 = .ok (.value (.text (some " +12 ")))) ∧
    (step tallied (.count (.all ⟨"T", []⟩))).1 = .ok (.number 12) := by
  have written : (tallied.driver.dialect.writeQuery (Query.all ⟨"T", []⟩).count).toText =
      .ok "SELECT COUNT(*) FROM T" := rfl
  obtain ⟨executed, single, counted⟩ := answer_aggregates.2.2.2 tallied rfl
  exact ⟨rfl, written, executed, single, counted _ _ written⟩

end Session

end SqlRecords
