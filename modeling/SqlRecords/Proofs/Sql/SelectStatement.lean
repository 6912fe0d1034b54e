/-
This file says which queries are statements and what they look like. The clauses of a query,
those that only ask for the number of records aside, have to be filters, then sort keys, then at
most one limit; the statement then has them in that order, and its text is made of the texts of
its clauses alone. Every other query is refused for the first clause that comes too late or that
has no text of its own.

The writer knows where it is by the clause it wrote last, and looks back into what it wrote. It
is compared with `addClause`, which collects the texts of predicates and keys and never looks at
a statement: whatever the writer has written, it is the statement of the texts collected so far.
-/

import Mathlib.Data.List.Induction
import SqlRecords.Error
import SqlRecords.Proofs.Results
import SqlRecords.Proofs.Sql.Writing
import SqlRecords.Sql.Select

namespace SqlRecords

open TextWriter

/-! ### Statements -/

/-- A sort key: an expression, and whether the greatest comes first. -/
structure SortKey where
  expression : Expression
  descending : Bool

/-- The clause that puts a sort key on a query. -/
def SortKey.clause (key : SortKey) : Clause :=
  if key.descending then .orderByDescending key.expression else .orderBy key.expression

/-- The clauses of a statement: filters, then sort keys, then at most one limit. -/
structure SelectClauses where
  predicates : List Expression
  keys : List SortKey
  limit : Option Nat

/-- The clauses of a statement in their order. -/
def SelectClauses.toList (clauses : SelectClauses) : List Clause :=
  clauses.predicates.map .filter ++ clauses.keys.map SortKey.clause ++
    clauses.limit.toList.map .limit

/-- The text of a predicate of a query. -/
def Dialect.predicateText (dialect : Dialect) (table : Table) (predicate : Expression) :
    Except StatementError String :=
  dialect.expressionText ⟨.selectWhere, some table⟩ predicate

/-- The text of a sort key of a query. A descending one ends in a blank. -/
def Dialect.keyText (dialect : Dialect) (table : Table) (key : SortKey) :
    Except StatementError String :=
  (dialect.expressionText ⟨.selectOrderBy, some table⟩ key.expression).map fun text =>
    if key.descending then text ++ " DESC " else text

/-! ### The text of a statement -/

/-- The clause for predicates with the given texts. -/
def whereText : List String → String
  | [] => ""
  | predicates => " WHERE " ++ " AND ".intercalate predicates

/-- A text with one more sort key. The blank at the end of the text, if there is one, gives way
to a comma. -/
def appendKey (text key : String) : String :=
  dropFinalBlank text ++ ", " ++ key

/-- The clause for sort keys with the given texts. -/
def orderText : List String → String
  | [] => ""
  | key :: further => further.foldl appendKey (" ORDER BY " ++ key)

/-- The clause for a limit. -/
def limitText : Option Nat → String
  | none => ""
  | some count => " LIMIT " ++ toString count

/-- The texts of the clauses of a statement. -/
structure SelectTexts where
  predicates : List String
  keys : List String
  limit : Option Nat

/-- No clauses. -/
def SelectTexts.empty : SelectTexts :=
  ⟨[], [], none⟩

/-- The clauses of a statement in one text. -/
def SelectTexts.text (texts : SelectTexts) : String :=
  whereText texts.predicates ++ orderText texts.keys ++ limitText texts.limit

/-- What a statement for a query begins with. -/
def Query.selectStart (query : Query) : String :=
  (if Clause.count ∈ query.clauses then "SELECT COUNT(*)" else "SELECT *") ++ " FROM " ++
    query.source.name

/-! ### Collecting the texts of clauses -/

/-- The texts with that of one more sort key. -/
def Dialect.addKey (dialect : Dialect) (table : Table) (texts : SelectTexts) (key : SortKey) :
    Except StatementError SelectTexts :=
  if texts.limit = none then
    (dialect.keyText table key).map fun text => { texts with keys := texts.keys ++ [text] }
  else
    .error .orderTooLate

/-- The texts with that of one more clause. -/
def Dialect.addClause (dialect : Dialect) (table : Table) (texts : SelectTexts) :
    Clause → Except StatementError SelectTexts
  | .filter predicate =>
    if texts.keys = [] ∧ texts.limit = none then
      (dialect.predicateText table predicate).map fun text =>
        { texts with predicates := texts.predicates ++ [text] }
    else
      .error .filterTooLate
  | .orderBy key => dialect.addKey table texts ⟨key, false⟩
  | .orderByDescending key => dialect.addKey table texts ⟨key, true⟩
  | .limit count =>
    if texts.limit = none then .ok { texts with limit := some count } else .error .secondLimit
  | .count => .ok texts

/-- The place that a statement with the given texts has reached. -/
def SelectTexts.place (texts : SelectTexts) : Fragment :=
  if texts.limit ≠ none then .selectLimit
  else if texts.keys ≠ [] then .selectOrderBy
  else if texts.predicates ≠ [] then .selectWhere
  else .selectFrom

/-! ### What is appended by one more clause -/

theorem whereText_append (predicates : List String) (text : String) :
    whereText (predicates ++ [text]) =
      whereText predicates ++ (if predicates = [] then " WHERE " else " AND ") ++ text := by
  cases predicates with
  | nil => rfl
  | cons first rest =>
    show " WHERE " ++ " AND ".intercalate ((first :: rest) ++ [text]) = _
    rw [String.intercalate_append_of_ne_nil (List.cons_ne_nil _ _) (List.cons_ne_nil _ _),
      String.intercalate_singleton, if_neg (List.cons_ne_nil _ _), whereText]
    · simp only [String.append_assoc]
    · exact List.cons_ne_nil _ _

theorem orderText_append (keys : List String) (further : keys ≠ []) (text : String) :
    orderText (keys ++ [text]) = appendKey (orderText keys) text := by
  cases keys with
  | nil => exact absurd rfl further
  | cons first rest =>
    show (rest ++ [text]).foldl appendKey (" ORDER BY " ++ first) = _
    rw [List.foldl_append]
    rfl

theorem appendKey_ne_empty (text key : String) : appendKey text key ≠ "" := by
  unfold appendKey
  intro equal
  rw [String.append_assoc, String.append_eq_empty_iff, String.append_eq_empty_iff] at equal
  exact absurd equal.2.1 (by decide)

theorem orderText_ne_empty (keys : List String) (some : keys ≠ []) : orderText keys ≠ "" := by
  induction keys using List.reverseRecOn with
  | nil => exact absurd rfl some
  | append_singleton rest key _ =>
    by_cases first : rest = []
    · subst first
      show " ORDER BY " ++ key ≠ ""
      intro equal
      exact absurd (String.append_eq_empty_iff.mp equal).1 (by decide)
    · rw [orderText_append rest first]
      exact appendKey_ne_empty _ _

/-- Only the last text can lose a blank at its end. -/
theorem dropFinalBlank_append (start text : String) (nonempty : text ≠ "") :
    dropFinalBlank (start ++ text) = start ++ dropFinalBlank text := by
  have characters : text.toList ≠ [] := fun equal => nonempty (String.toList_eq_nil_iff.mp equal)
  unfold dropFinalBlank
  rw [String.toList_append, List.getLast?_append_of_ne_nil _ characters,
    List.dropLast_append_of_ne_nil characters, String.ofList_append, String.ofList_toList]
  split <;> rfl

theorem text_of_no_limit (predicates keys : List String) :
    SelectTexts.text ⟨predicates, keys, none⟩ = whereText predicates ++ orderText keys :=
  String.append_empty

theorem text_of_no_keys (predicates : List String) :
    SelectTexts.text ⟨predicates, [], none⟩ = whereText predicates := by
  rw [text_of_no_limit]
  exact String.append_empty

theorem place_of_predicates (predicates : List String) (further : predicates ≠ []) :
    SelectTexts.place ⟨predicates, [], none⟩ = .selectWhere := by
  rw [SelectTexts.place, if_neg (not_not_intro rfl), if_neg (not_not_intro rfl), if_pos further]

theorem place_of_keys (predicates keys : List String) (further : keys ≠ []) :
    SelectTexts.place ⟨predicates, keys, none⟩ = .selectOrderBy := by
  rw [SelectTexts.place, if_neg (not_not_intro rfl), if_pos further]

theorem place_of_no_limit (predicates keys : List String) :
    SelectTexts.place ⟨predicates, keys, none⟩ ≠ .selectLimit := by
  rw [SelectTexts.place, if_neg (not_not_intro rfl)]
  split
  · decide
  · split <;> decide

/-! ### The writer and the collected texts -/

theorem outcome_writeExpression_bind {Second : Type} (dialect : Dialect) (context : Context)
    (expression : Expression) (next : Unit → Writer Second) (before : String) :
    (dialect.writeExpression context expression >>= next).outcome before =
      dialect.expressionText context expression >>= fun text =>
        (next ()).outcome (before ++ text) := by
  rw [outcome_bind, outcome_of_appends (appends_writeExpression dialect context expression)]
  show ((dialect.expressionText context expression).map _ >>= _) = _
  cases dialect.expressionText context expression <;> rfl

theorem outcome_writeClause_filter (dialect : Dialect) (table : Table) (predicates : List String)
    (predicate : Expression) (start : String) :
    (dialect.writeClause table (SelectTexts.place ⟨predicates, [], none⟩)
        (.filter predicate)).outcome (start ++ whereText predicates) =
      (dialect.predicateText table predicate).map fun text =>
        (Fragment.selectWhere, start ++ whereText (predicates ++ [text])) := by
  have written (mark before : String) :
      (do
        write mark
        dialect.writeExpression ⟨.selectWhere, some table⟩ predicate
        return Fragment.selectWhere : Writer Fragment).outcome before =
        (dialect.predicateText table predicate).map fun text =>
          (Fragment.selectWhere, before ++ mark ++ text) := by
    rw [outcome_bind, outcome_write]
    show (dialect.writeExpression _ predicate >>= _).outcome (before ++ mark) = _
    rw [outcome_writeExpression_bind]
    unfold Dialect.predicateText
    cases dialect.expressionText ⟨.selectWhere, some table⟩ predicate <;> rfl
  simp only [whereText_append, ← String.append_assoc]
  by_cases first : predicates = []
  · subst first
    exact written " WHERE " _
  · rw [if_neg first, place_of_predicates predicates first]
    exact written " AND " _

/-- Before a sort key the writer opens the clause or looks back for a blank; either way the key
ends up where the texts collected so far have it. -/
theorem outcome_writeOrderMark (predicates keys : List String) (start : String) :
    ∃ before, (writeOrderMark (SelectTexts.place ⟨predicates, keys, none⟩)).outcome
        (start ++ whereText predicates ++ orderText keys) = .ok ((), before) ∧
      ∀ text, before ++ text = start ++ whereText predicates ++ orderText (keys ++ [text]) := by
  by_cases first : keys = []
  · subst first
    refine ⟨start ++ whereText predicates ++ " ORDER BY ", ?_, fun text => ?_⟩
    · rw [show orderText [] = "" from rfl, String.append_empty]
      by_cases unfiltered : predicates = []
      · subst unfiltered
        rfl
      · rw [place_of_predicates predicates unfiltered]
        rfl
    · rw [String.append_assoc]
      rfl
  · refine ⟨start ++ whereText predicates ++ dropFinalBlank (orderText keys) ++ ", ", ?_,
      fun text => ?_⟩
    · rw [← dropFinalBlank_append _ _ (orderText_ne_empty keys first),
        place_of_keys predicates keys first]
      rfl
    · rw [orderText_append keys first, appendKey]
      simp only [String.append_assoc]

/-- Writing a sort key is putting its text behind the others. -/
theorem outcome_writeClause_key (dialect : Dialect) (table : Table)
    (predicates keys : List String) (key : SortKey) (start : String) :
    (dialect.writeClause table (SelectTexts.place ⟨predicates, keys, none⟩) key.clause).outcome
        (start ++ whereText predicates ++ orderText keys) =
      (dialect.keyText table key).map fun text =>
        (Fragment.selectOrderBy,
          start ++ whereText predicates ++ orderText (keys ++ [text])) := by
  obtain ⟨before, marked, placed⟩ := outcome_writeOrderMark predicates keys start
  -- the two directions differ only in what is written behind the expression
  have written (ending : Writer Fragment) (suffix : String)
      (ends : ∀ text, ending.outcome text = .ok (.selectOrderBy, text ++ suffix)) :
      (writeOrderMark (SelectTexts.place ⟨predicates, keys, none⟩) >>= fun _ =>
          dialect.writeExpression ⟨.selectOrderBy, some table⟩ key.expression >>= fun _ =>
            ending).outcome (start ++ whereText predicates ++ orderText keys) =
        (dialect.expressionText ⟨.selectOrderBy, some table⟩ key.expression).map fun text =>
          (Fragment.selectOrderBy,
            start ++ whereText predicates ++ orderText (keys ++ [text ++ suffix])) := by
    rw [outcome_bind, marked]
    show (dialect.writeExpression _ key.expression >>= _).outcome before = _
    rw [outcome_writeExpression_bind]
    cases dialect.expressionText ⟨.selectOrderBy, some table⟩ key.expression with
    | error failure => rfl
    | ok text =>
      show ending.outcome (before ++ text) = .ok (_, _)
      rw [ends, String.append_assoc, placed]
  obtain ⟨expression, descending⟩ := key
  unfold Dialect.keyText
  cases descending with
  | false =>
    refine (written (pure .selectOrderBy) "" fun text => ?_).trans ?_
    · rw [outcome_pure, String.append_empty]
    · simp only [String.append_empty]
      cases dialect.expressionText ⟨.selectOrderBy, some table⟩ expression <;> rfl
  | true =>
    refine (written (write " DESC " >>= fun _ => pure .selectOrderBy) " DESC " fun text =>
      rfl).trans ?_
    cases dialect.expressionText ⟨.selectOrderBy, some table⟩ expression <;> rfl

theorem outcome_writeClause_addKey (dialect : Dialect) (table : Table) (texts : SelectTexts)
    (key : SortKey) (start : String) :
    (dialect.writeClause table texts.place key.clause).outcome (start ++ texts.text) =
      (dialect.addKey table texts key).map fun next => (next.place, start ++ next.text) := by
  obtain ⟨predicates, keys, limit⟩ := texts
  cases limit with
  | none =>
    rw [text_of_no_limit, ← String.append_assoc, outcome_writeClause_key, Dialect.addKey,
      if_pos rfl]
    cases dialect.keyText table key with
    | error failure => rfl
    | ok text =>
      show _ = Except.ok (SelectTexts.place ⟨predicates, keys ++ [text], none⟩,
        start ++ SelectTexts.text ⟨predicates, keys ++ [text], none⟩)
      rw [text_of_no_limit, place_of_keys _ _ (List.append_ne_nil_of_right_ne_nil _
        (List.cons_ne_nil _ _)), ← String.append_assoc]
      rfl
  | some count =>
    obtain ⟨expression, descending⟩ := key
    cases descending <;> rfl

/-- One clause: the writer, started behind the statement of some texts, ends behind the
statement of the texts with that of the clause, or fails as the collecting does. -/
theorem outcome_writeClause (dialect : Dialect) (table : Table) (texts : SelectTexts)
    (clause : Clause) (start : String) :
    (dialect.writeClause table texts.place clause).outcome (start ++ texts.text) =
      (dialect.addClause table texts clause).map fun next =>
        (next.place, start ++ next.text) := by
  cases clause with
  | filter predicate =>
    obtain ⟨predicates, keys, limit⟩ := texts
    by_cases early : keys = [] ∧ limit = none
    · obtain ⟨rfl, rfl⟩ := early
      rw [text_of_no_keys, outcome_writeClause_filter, Dialect.addClause, if_pos ⟨rfl, rfl⟩]
      cases dialect.predicateText table predicate with
      | error failure => rfl
      | ok text =>
        show _ = Except.ok (SelectTexts.place ⟨predicates ++ [text], [], none⟩,
          start ++ SelectTexts.text ⟨predicates ++ [text], [], none⟩)
        rw [text_of_no_keys, place_of_predicates _ (List.append_ne_nil_of_right_ne_nil _
          (List.cons_ne_nil _ _))]
        rfl
    · rw [Dialect.addClause, if_neg early]
      cases limit with
      | some count => rfl
      | none =>
        rw [place_of_keys predicates keys fun none => early ⟨none, rfl⟩]
        rfl
  | orderBy key => exact outcome_writeClause_addKey dialect table texts ⟨key, false⟩ start
  | orderByDescending key => exact outcome_writeClause_addKey dialect table texts ⟨key, true⟩ start
  | limit count =>
    obtain ⟨predicates, keys, limit⟩ := texts
    cases limit with
    | some count => rfl
    | none =>
      rw [Dialect.writeClause, if_neg (place_of_no_limit predicates keys)]
      show Except.ok (Fragment.selectLimit, _ ++ (" LIMIT " ++ toString count)) =
        Except.ok (Fragment.selectLimit,
          start ++ (whereText predicates ++ orderText keys ++ (" LIMIT " ++ toString count)))
      rw [text_of_no_limit, String.append_assoc]
  | count => rfl

/-- Any number of clauses: the writer ends behind the statement of the collected texts. -/
theorem outcome_writeClauses (dialect : Dialect) (table : Table) (texts : SelectTexts)
    (clauses : List Clause) (start : String) :
    (dialect.writeClauses table texts.place clauses).outcome (start ++ texts.text) =
      (clauses.foldlM (dialect.addClause table) texts).map fun reached =>
        ((), start ++ reached.text) := by
  induction clauses generalizing texts with
  | nil => rfl
  | cons clause rest inductionHypothesis =>
    rw [Dialect.writeClauses, outcome_bind, outcome_writeClause, List.foldlM_cons]
    cases dialect.addClause table texts clause with
    | error failure => rfl
    | ok next => exact inductionHypothesis next

theorem isCount_eq_decide (query : Query) :
    query.isCount = decide (Clause.count ∈ query.clauses) := by
  rw [Query.isCount, Bool.eq_iff_iff, List.any_eq_true, decide_eq_true_iff]
  constructor
  · rintro ⟨clause, member, counts⟩
    cases clause with
    | count => exact member
    | _ => cases counts
  · intro member
    exact ⟨.count, member, rfl⟩

/-- The statement of a query is what it begins with and the statement of the texts of its
clauses. -/
theorem toText_writeQuery_eq (dialect : Dialect) (query : Query) :
    (dialect.writeQuery query).toText =
      (query.clauses.foldlM (dialect.addClause query.source) .empty).map fun texts =>
        query.selectStart ++ texts.text := by
  have started : "" ++ (if query.isCount then "SELECT COUNT(*)" else "SELECT *") ++ " FROM " ++
      query.source.name = query.selectStart ++ SelectTexts.empty.text := by
    rw [isCount_eq_decide, String.empty_append]
    simp only [decide_eq_true_eq]
    exact (String.append_empty).symm
  have written : (dialect.writeQuery query).outcome "" =
      (dialect.writeClauses query.source SelectTexts.empty.place query.clauses).outcome
        (query.selectStart ++ SelectTexts.empty.text) := by
    rw [← started]
    rfl
  rw [toText_eq_outcome, written, outcome_writeClauses]
  cases query.clauses.foldlM (dialect.addClause query.source) .empty <;> rfl

/-! ### The clauses that are collected -/

/-- Clauses of one kind are collected one after the other, each with its own text. -/
theorem foldlM_map_clauses {Item : Type} (dialect : Dialect) (table : Table)
    (clause : Item → Clause) (text : Item → Except StatementError String)
    (texts : List String → SelectTexts)
    (adds : ∀ item collected, dialect.addClause table (texts collected) (clause item) =
      (text item).map fun next => texts (collected ++ [next]))
    (items : List Item) (collected : List String) :
    (items.map clause).foldlM (dialect.addClause table) (texts collected) =
      (items.mapM text).map fun further => texts (collected ++ further) := by
  induction items generalizing collected with
  | nil => exact congrArg (fun all => Except.ok (texts all)) (List.append_nil collected).symm
  | cons item rest inductionHypothesis =>
    rw [List.map_cons, List.foldlM_cons, List.mapM_cons, adds]
    cases text item with
    | error failure => rfl
    | ok next =>
      refine (inductionHypothesis (collected ++ [next])).trans ?_
      cases rest.mapM text with
      | error failure => rfl
      | ok further =>
        exact congrArg (fun all => Except.ok (texts all))
          (List.append_assoc collected [next] further)

theorem foldlM_filters (dialect : Dialect) (table : Table) (expressions : List Expression) :
    (expressions.map Clause.filter).foldlM (dialect.addClause table) .empty =
      (expressions.mapM (dialect.predicateText table)).map fun predicates =>
        ⟨predicates, [], none⟩ := by
  refine foldlM_map_clauses dialect table .filter (dialect.predicateText table) (⟨·, [], none⟩)
    (fun predicate collected => ?_) expressions []
  rw [Dialect.addClause, if_pos ⟨rfl, rfl⟩]

theorem addClause_key (dialect : Dialect) (table : Table) (texts : SelectTexts) (key : SortKey) :
    dialect.addClause table texts key.clause = dialect.addKey table texts key := by
  obtain ⟨expression, descending⟩ := key
  cases descending <;> rfl

theorem foldlM_keys (dialect : Dialect) (table : Table) (sortKeys : List SortKey)
    (predicates : List String) :
    (sortKeys.map SortKey.clause).foldlM (dialect.addClause table) ⟨predicates, [], none⟩ =
      (sortKeys.mapM (dialect.keyText table)).map fun keys => ⟨predicates, keys, none⟩ := by
  refine foldlM_map_clauses dialect table SortKey.clause (dialect.keyText table)
    (⟨predicates, ·, none⟩) (fun key collected => ?_) sortKeys []
  rw [addClause_key, Dialect.addKey, if_pos rfl]

/-- Clauses in the order of a statement are collected if all of them have texts. -/
theorem foldlM_toList (dialect : Dialect) (table : Table) (ordered : SelectClauses) :
    ordered.toList.foldlM (dialect.addClause table) .empty = do
      let predicates ← ordered.predicates.mapM (dialect.predicateText table)
      let keys ← ordered.keys.mapM (dialect.keyText table)
      return ⟨predicates, keys, ordered.limit⟩ := by
  obtain ⟨expressions, sortKeys, limit⟩ := ordered
  unfold SelectClauses.toList
  rw [List.foldlM_append, List.foldlM_append, foldlM_filters]
  cases expressions.mapM (dialect.predicateText table) with
  | error failure => rfl
  | ok predicates =>
    show (List.foldlM _ (SelectTexts.mk predicates [] none) _ >>= _) = _
    rw [foldlM_keys]
    cases sortKeys.mapM (dialect.keyText table) with
    | error failure => rfl
    | ok keys => cases limit <;> rfl

/-- Clauses that only ask for the number of records add no text. -/
theorem foldlM_filter_isCount (dialect : Dialect) (table : Table) (texts : SelectTexts)
    (clauses : List Clause) :
    (clauses.filter (!·.isCount)).foldlM (dialect.addClause table) texts =
      clauses.foldlM (dialect.addClause table) texts := by
  induction clauses generalizing texts with
  | nil => rfl
  | cons clause rest inductionHypothesis =>
    have continued (clause : Clause) :
        (clause :: rest.filter (!·.isCount)).foldlM (dialect.addClause table) texts =
          (clause :: rest).foldlM (dialect.addClause table) texts := by
      rw [List.foldlM_cons, List.foldlM_cons]
      cases dialect.addClause table texts clause with
      | error failure => rfl
      | ok next => exact inductionHypothesis next
    cases clause with
    | count => exact inductionHypothesis texts
    | _ => exact continued _

/-- What one clause can add. -/
theorem addClause_eq_ok {dialect : Dialect} {table : Table} {texts next : SelectTexts}
    {clause : Clause} (added : dialect.addClause table texts clause = .ok next) :
    (∃ predicate text, clause = .filter predicate ∧ texts.keys = [] ∧ texts.limit = none ∧
      next = ⟨texts.predicates ++ [text], [], none⟩) ∨
    (∃ (key : SortKey) (text : String), clause = key.clause ∧ texts.limit = none ∧
      next = ⟨texts.predicates, texts.keys ++ [text], none⟩) ∨
    (∃ count, clause = .limit count ∧ texts.limit = none ∧
      next = ⟨texts.predicates, texts.keys, some count⟩) ∨
    (clause = .count ∧ next = texts) := by
  obtain ⟨predicates, keys, limit⟩ := texts
  have addedKey (key : SortKey) (added : dialect.addKey table ⟨predicates, keys, limit⟩ key =
      .ok next) : ∃ text, limit = none ∧ next = ⟨predicates, keys ++ [text], none⟩ := by
    unfold Dialect.addKey at added
    split at added
    case isTrue unlimited =>
      obtain ⟨text, -, rfl⟩ := (map_eq_ok_iff _ _ _).mp added
      exact ⟨text, unlimited, by rw [← show limit = none from unlimited]⟩
    case isFalse => cases added
  cases clause with
  | filter predicate =>
    rw [Dialect.addClause] at added
    split at added
    case isTrue early =>
      obtain ⟨rfl, rfl⟩ := early
      obtain ⟨text, -, rfl⟩ := (map_eq_ok_iff _ _ _).mp added
      exact .inl ⟨predicate, text, rfl, rfl, rfl, rfl⟩
    case isFalse => cases added
  | orderBy key =>
    obtain ⟨text, unlimited, rfl⟩ := addedKey ⟨key, false⟩ added
    exact .inr (.inl ⟨⟨key, false⟩, text, rfl, unlimited, rfl⟩)
  | orderByDescending key =>
    obtain ⟨text, unlimited, rfl⟩ := addedKey ⟨key, true⟩ added
    exact .inr (.inl ⟨⟨key, true⟩, text, rfl, unlimited, rfl⟩)
  | limit count =>
    rw [Dialect.addClause] at added
    split at added
    case isTrue unlimited =>
      cases added
      exact .inr (.inr (.inl ⟨count, rfl, unlimited, rfl⟩))
    case isFalse => cases added
  | count =>
    cases added
    exact .inr (.inr (.inr ⟨rfl, rfl⟩))

/-- Collecting succeeds only on filters, then sort keys, then at most one limit. -/
theorem exists_clauses_of_foldlM {dialect : Dialect} {table : Table} {clauses : List Clause}
    {texts : SelectTexts}
    (collected : clauses.foldlM (dialect.addClause table) .empty = .ok texts) :
    ∃ ordered : SelectClauses, clauses.filter (!·.isCount) = ordered.toList ∧
      (ordered.keys = [] ↔ texts.keys = []) ∧ ordered.limit = texts.limit := by
  -- a new clause comes last, so the clauses before it are taken first
  induction clauses using List.reverseRecOn generalizing texts with
  | nil =>
    cases collected
    exact ⟨⟨[], [], none⟩, rfl, ⟨fun _ => rfl, fun _ => rfl⟩, rfl⟩
  | append_singleton rest clause inductionHypothesis =>
    rw [foldlM_concat] at collected
    obtain ⟨reached, before, added⟩ := (bind_eq_ok_iff _ _ _).mp collected
    obtain ⟨⟨predicates, keys, limit⟩, filtered, keysEmpty, limitEqual⟩ :=
      inductionHypothesis before
    rw [List.filter_append, filtered]
    simp only at keysEmpty limitEqual
    rcases addClause_eq_ok added with ⟨predicate, text, rfl, unsorted, unlimited, rfl⟩ |
      ⟨key, text, rfl, unlimited, rfl⟩ | ⟨count, rfl, unlimited, rfl⟩ | ⟨rfl, rfl⟩
    · refine ⟨⟨predicates ++ [predicate], [], none⟩, ?_, ⟨fun _ => rfl, fun _ => rfl⟩, rfl⟩
      rw [unlimited] at limitEqual
      rw [keysEmpty.mpr unsorted, limitEqual]
      simp [SelectClauses.toList, Clause.isCount]
    · refine ⟨⟨predicates, keys ++ [key], none⟩, ?_, by simp, rfl⟩
      rw [unlimited] at limitEqual
      have kept : [key.clause].filter (!·.isCount) = [key.clause] := by
        obtain ⟨expression, descending⟩ := key
        cases descending <;> rfl
      rw [limitEqual, kept]
      simp [SelectClauses.toList]
    · refine ⟨⟨predicates, keys, some count⟩, ?_, keysEmpty, rfl⟩
      rw [unlimited] at limitEqual
      rw [limitEqual]
      simp [SelectClauses.toList, Clause.isCount]
    · refine ⟨⟨predicates, keys, limit⟩, ?_, keysEmpty, limitEqual⟩
      simp [Clause.isCount]

/-- Collecting succeeds exactly on filters, then sort keys, then at most one limit, all of which
have texts, and gives those texts. -/
theorem foldlM_addClause_eq_ok_iff (dialect : Dialect) (table : Table) (clauses : List Clause)
    (texts : SelectTexts) :
    clauses.foldlM (dialect.addClause table) .empty = .ok texts ↔
      ∃ ordered : SelectClauses, clauses.filter (!·.isCount) = ordered.toList ∧
        ordered.predicates.mapM (dialect.predicateText table) = .ok texts.predicates ∧
        ordered.keys.mapM (dialect.keyText table) = .ok texts.keys ∧
        ordered.limit = texts.limit := by
  constructor
  · intro collected
    obtain ⟨ordered, filtered, -, -⟩ := exists_clauses_of_foldlM collected
    refine ⟨ordered, filtered, ?_⟩
    rw [← foldlM_filter_isCount, filtered, foldlM_toList] at collected
    obtain ⟨predicates, predicatesWritten, collected⟩ := (bind_eq_ok_iff _ _ _).mp collected
    obtain ⟨keys, keysWritten, equal⟩ := (bind_eq_ok_iff _ _ _).mp collected
    cases equal
    exact ⟨predicatesWritten, keysWritten, rfl⟩
  · rintro ⟨ordered, filtered, predicates, keys, limit⟩
    rw [← foldlM_filter_isCount, filtered, foldlM_toList, predicates, keys, limit]
    rfl

/-! ### The first clause at fault -/

/-- Whether a clause is a sort key. -/
def Clause.isSort : Clause → Bool
  | orderBy _ | orderByDescending _ => true
  | _ => false

/-- Whether a clause is a limit. -/
def Clause.isLimit : Clause → Bool
  | limit _ => true
  | _ => false

/-- Why a clause comes too late behind the clauses before it, if it does. -/
def Clause.misplacement? (before : List Clause) : Clause → Option StatementError
  | filter _ =>
    if before.any fun clause => clause.isSort || clause.isLimit then some .filterTooLate else none
  | orderBy _ | orderByDescending _ => if before.any isLimit then some .orderTooLate else none
  | limit _ => if before.any isLimit then some .secondLimit else none
  | count => none

/-- The failure of a computation that failed. -/
def failure? {Failure Result : Type} : Except Failure Result → Option Failure
  | .ok _ => none
  | .error failure => some failure

/-- Why a clause has no text, if it has none. -/
def Dialect.unwritable? (dialect : Dialect) (table : Table) : Clause → Option StatementError
  | .filter predicate => failure? (dialect.predicateText table predicate)
  | .orderBy key => failure? (dialect.keyText table ⟨key, false⟩)
  | .orderByDescending key => failure? (dialect.keyText table ⟨key, true⟩)
  | .limit _ | .count => none

/-- What is wrong with a clause behind the clauses before it, if anything is: its place, or else
its text. -/
def Dialect.fault? (dialect : Dialect) (table : Table) (before : List Clause) (clause : Clause) :
    Option StatementError :=
  clause.misplacement? before <|> dialect.unwritable? table clause

/-- The fault of the first clause at fault. -/
def Dialect.FirstFault (dialect : Dialect) (table : Table) (clauses : List Clause)
    (failure : StatementError) : Prop :=
  ∃ before clause after, clauses = before ++ clause :: after ∧
    dialect.fault? table before clause = some failure ∧
    ∀ earlier other later, before = earlier ++ other :: later →
      dialect.fault? table earlier other = none

theorem any_filter_isCount (clauses : List Clause) (test : Clause → Bool)
    (untested : test .count = false) :
    (clauses.filter (!·.isCount)).any test = clauses.any test := by
  rw [List.any_filter]
  refine congrArg clauses.any (funext fun clause => ?_)
  cases clause with
  | count => rw [untested, Bool.and_false]
  | _ => rfl

/-- A test of the clauses of a statement, kind by kind. -/
theorem any_toList (ordered : SelectClauses) (test : Clause → Bool) :
    ordered.toList.any test =
      (ordered.predicates.any (fun predicate => test (.filter predicate)) ||
        ordered.keys.any (fun key => test key.clause) ||
        ordered.limit.any (fun count => test (.limit count))) := by
  unfold SelectClauses.toList
  rw [List.any_append, List.any_append, List.any_map, List.any_map, List.any_map]
  cases ordered.limit with
  | none => rfl
  | some count => exact congrArg _ (Bool.or_false _)

theorem any_const {Item : Type} (items : List Item) (answer : Bool) :
    items.any (fun _ => answer) = (!items.isEmpty && answer) := by
  cases items <;> cases answer <;> simp

theorem any_isLimit_toList (ordered : SelectClauses) :
    ordered.toList.any Clause.isLimit = ordered.limit.isSome := by
  have noKey : (fun key : SortKey => key.clause.isLimit) = fun _ => false := by
    funext ⟨expression, descending⟩
    cases descending <;> rfl
  rw [any_toList, noKey]
  cases ordered.limit <;> simp [Clause.isLimit]

theorem any_isSort_toList (ordered : SelectClauses) :
    ordered.toList.any Clause.isSort = !ordered.keys.isEmpty := by
  have everyKey : (fun key : SortKey => key.clause.isSort) = fun _ => true := by
    funext ⟨expression, descending⟩
    cases descending <;> rfl
  rw [any_toList, everyKey, any_const]
  cases ordered.limit <;> simp [Clause.isSort]

theorem failure?_map {Failure First Second : Type} (change : First → Second)
    (result : Except Failure First) : failure? (result.map change) = failure? result := by
  cases result <;> rfl

/-- Behind clauses that were collected, a clause is at fault exactly as its collecting fails. -/
theorem fault?_eq_failure? {dialect : Dialect} {table : Table} {before : List Clause}
    {texts : SelectTexts}
    (collected : before.foldlM (dialect.addClause table) .empty = .ok texts) (clause : Clause) :
    dialect.fault? table before clause = failure? (dialect.addClause table texts clause) := by
  obtain ⟨ordered, filtered, keysEmpty, limitEqual⟩ := exists_clauses_of_foldlM collected
  have limited : before.any Clause.isLimit = texts.limit.isSome := by
    rw [← any_filter_isCount before _ rfl, filtered, any_isLimit_toList, limitEqual]
  have sorted : before.any Clause.isSort = !texts.keys.isEmpty := by
    rw [← any_filter_isCount before _ rfl, filtered, any_isSort_toList, Bool.eq_iff_iff,
      Bool.not_eq_true', Bool.not_eq_true', List.isEmpty_eq_false_iff, List.isEmpty_eq_false_iff]
    exact not_congr keysEmpty
  have keyFault (key : SortKey) :
      ((if before.any Clause.isLimit then some StatementError.orderTooLate else none) <|>
        failure? (dialect.keyText table key)) = failure? (dialect.addKey table texts key) := by
    rw [limited, Dialect.addKey]
    cases texts.limit with
    | none =>
      show failure? (dialect.keyText table key) = _
      rw [if_pos rfl, failure?_map]
    | some count => rfl
  cases clause with
  | filter predicate =>
    have late : (before.any fun clause => clause.isSort || clause.isLimit) =
        (!texts.keys.isEmpty || texts.limit.isSome) := by
      rw [← sorted, ← limited, Bool.eq_iff_iff]
      simp only [Bool.or_eq_true, List.any_eq_true, and_or_left, exists_or]
    rw [Dialect.fault?, Clause.misplacement?, late, Dialect.addClause, Dialect.unwritable?]
    cases texts.keys with
    | cons key rest => cases texts.limit <;> rfl
    | nil =>
      cases texts.limit with
      | none =>
        show failure? (dialect.predicateText table predicate) = _
        rw [if_pos ⟨rfl, rfl⟩, failure?_map]
      | some count => rfl
  | orderBy key => exact keyFault ⟨key, false⟩
  | orderByDescending key => exact keyFault ⟨key, true⟩
  | limit count =>
    rw [Dialect.fault?, Clause.misplacement?, limited, Dialect.addClause, Dialect.unwritable?]
    cases texts.limit <;> rfl
  | count => rfl

theorem failure?_eq_some_iff {Failure Result : Type} (result : Except Failure Result)
    (failure : Failure) : failure? result = some failure ↔ result = .error failure := by
  cases result with
  | ok value => exact ⟨fun equal => (nomatch equal), fun equal => (nomatch equal)⟩
  | error other =>
    exact ⟨fun equal => congrArg _ (Option.some.inj equal),
      fun equal => congrArg _ (Except.error.inj equal)⟩

/-- Collecting fails for the first clause at fault. -/
theorem foldlM_addClause_eq_error_iff (dialect : Dialect) (table : Table) (clauses : List Clause)
    (failure : StatementError) :
    clauses.foldlM (dialect.addClause table) .empty = .error failure ↔
      dialect.FirstFault table clauses failure := by
  rw [foldlM_eq_error_iff]
  constructor
  · rintro ⟨before, clause, after, reached, rfl, collected, failing⟩
    refine ⟨before, clause, after, rfl, ?_, ?_⟩
    · rw [fault?_eq_failure? collected, failure?_eq_some_iff]
      exact failing
    · -- what was collected up to the fault was collected clause by clause
      rintro earlier other later rfl
      rw [List.foldlM_append] at collected
      obtain ⟨texts, started, continued⟩ := (bind_eq_ok_iff _ _ _).mp collected
      rw [List.foldlM_cons] at continued
      obtain ⟨next, added, -⟩ := (bind_eq_ok_iff _ _ _).mp continued
      rw [fault?_eq_failure? started, added]
      rfl
  · rintro ⟨before, clause, after, split, fault, faultless⟩
    cases collected : before.foldlM (dialect.addClause table) .empty with
    | ok reached =>
      refine ⟨before, clause, after, reached, split, collected, ?_⟩
      rw [fault?_eq_failure? collected, failure?_eq_some_iff] at fault
      exact fault
    | error other =>
      obtain ⟨earlier, item, later, reached, split, started, failing⟩ :=
        (foldlM_eq_error_iff _ _ _ _).mp collected
      have none := faultless earlier item later split
      rw [fault?_eq_failure? started, failing] at none
      cases none

/-! ### Queries and statements -/

theorem kind_of_misplacement? {before : List Clause} {clause : Clause} {failure : StatementError}
    (misplaced : clause.misplacement? before = some failure) :
    failure.kind = .unsupportedOperation := by
  unfold Clause.misplacement? at misplaced
  split at misplaced
  case h_5 => cases misplaced
  all_goals
    obtain ⟨-, equal⟩ := Option.ite_none_right_eq_some.mp misplaced
    cases equal
    rfl

/-- The statements of a query: its clauses have to be filters, then sort keys, then at most one
limit, all with texts of their own, and the statement is made of those texts. -/
theorem toText_writeQuery_eq_ok_iff (dialect : Dialect) (query : Query) (text : String) :
    (dialect.writeQuery query).toText = .ok text ↔
      ∃ (ordered : SelectClauses) (predicates keys : List String),
        query.clauses.filter (!·.isCount) = ordered.toList ∧
        ordered.predicates.mapM (dialect.predicateText query.source) = .ok predicates ∧
        ordered.keys.mapM (dialect.keyText query.source) = .ok keys ∧
        text = query.selectStart ++
          (whereText predicates ++ orderText keys ++ limitText ordered.limit) := by
  rw [toText_writeQuery_eq]
  constructor
  · intro written
    obtain ⟨texts, collected, rfl⟩ := (map_eq_ok_iff _ _ _).mp written
    obtain ⟨ordered, filtered, predicates, keys, limit⟩ :=
      (foldlM_addClause_eq_ok_iff _ _ _ _).mp collected
    refine ⟨ordered, texts.predicates, texts.keys, filtered, predicates, keys, ?_⟩
    rw [limit]
    rfl
  · rintro ⟨ordered, predicates, keys, filtered, predicatesWritten, keysWritten, rfl⟩
    rw [(foldlM_addClause_eq_ok_iff dialect query.source query.clauses
      ⟨predicates, keys, ordered.limit⟩).mpr
        ⟨ordered, filtered, predicatesWritten, keysWritten, rfl⟩]
    rfl

/-- A query that is no statement is refused for its first clause at fault. -/
theorem toText_writeQuery_eq_error_iff (dialect : Dialect) (query : Query)
    (failure : StatementError) :
    (dialect.writeQuery query).toText = .error failure ↔
      dialect.FirstFault query.source query.clauses failure := by
  rw [toText_writeQuery_eq, ← foldlM_addClause_eq_error_iff]
  cases query.clauses.foldlM (dialect.addClause query.source) .empty with
  | error other =>
    exact ⟨fun equal => congrArg _ (Except.error.inj equal),
      fun equal => congrArg _ (Except.error.inj equal)⟩
  | ok texts => exact ⟨fun equal => (nomatch equal), fun equal => (nomatch equal)⟩

/-- A query is written as a statement exactly if its clauses, those that ask for the number of
records aside, are filters, then sort keys, then at most one limit, and all its predicates and
keys have texts; the statement is then made of those texts. Otherwise the first clause at fault
decides the error, which is about an operation that is not supported when the clause came too
late. -/
theorem writeQuery_statement_or_first_fault (dialect : Dialect) (query : Query) :
    (∀ text, (dialect.writeQuery query).toText = .ok text ↔
      ∃ (ordered : SelectClauses) (predicates keys : List String),
        query.clauses.filter (!·.isCount) = ordered.toList ∧
        ordered.predicates.mapM (dialect.predicateText query.source) = .ok predicates ∧
        ordered.keys.mapM (dialect.keyText query.source) = .ok keys ∧
        text = query.selectStart ++
          (whereText predicates ++ orderText keys ++ limitText ordered.limit)) ∧
    (∀ failure, (dialect.writeQuery query).toText = .error failure ↔
      dialect.FirstFault query.source query.clauses failure) ∧
    ∀ (before : List Clause) (clause : Clause) (failure : StatementError),
      clause.misplacement? before = some failure → failure.kind = .unsupportedOperation := by
  exact ⟨toText_writeQuery_eq_ok_iff dialect query, toText_writeQuery_eq_error_iff dialect query,
    fun _ _ _ => kind_of_misplacement?⟩

end SqlRecords
