/-
This file says what a server makes of the filters of a query: it reads the condition of the
statement as the conjunction of the filters in their order, each with the operands it was built
with, exactly if no filter compares a negation with anything.

Names have to be plain words for that, since they are written as they are. Literals need no such
condition. The text of a filter is first cut into the tokens of its tree, and these are then
grouped as written conditions are.
-/

import SqlRecords.Proofs.Sql.ConditionGrouping
import SqlRecords.Proofs.Sql.LiteralLeaf
import SqlRecords.Proofs.Sql.SelectStatement

namespace SqlRecords

/-! ### The trees of expressions -/

/-- The tree of an expression in a place, with the texts of its names and literals. -/
def Dialect.condition (dialect : Dialect) (context : Context) :
    Expression → Except StatementError Condition
  | .binary operator left right => do
    let first ← dialect.condition context left
    let second ← dialect.condition context right
    return .binary operator first second
  | .negation operand => do
    let inner ← dialect.condition context operand
    return .negation inner
  | .field name => return .leaf (context.columnName name)
  | .literal value =>
    if value.isNull then
      return .null
    else do
      let text ← dialect.literal context.fragment.isKeyAssignment value
      return .leaf text

namespace Expression

/-- The fields that an expression names. -/
def fields : Expression → List String
  | binary _ left right => left.fields ++ right.fields
  | negation operand => operand.fields
  | field name => [name]
  | literal _ => []

/-- Whether an expression is a negation. -/
def isNegation : Expression → Bool
  | negation _ => true
  | _ => false

/-- Whether no comparison in an expression has a negation for an operand. -/
def keepsOperands : Expression → Bool
  | binary operator left right =>
    left.keepsOperands && right.keepsOperands &&
      !(operator.isComparison && (left.isNegation || right.isNegation))
  | negation operand => operand.keepsOperands
  | field _ | literal _ => true

end Expression

/-- A name that is a word without a meaning of its own. -/
structure IsPlainName (name : String) : Prop where
  nonempty : name.toList ≠ []
  characters : name.toList.all isNameCharacter = true
  plain : keyword? name.toList = none

/-- The predicate of a filter. -/
def Clause.predicate? : Clause → Option Expression
  | filter predicate => some predicate
  | _ => none

/-- The predicates of the filters of a query. -/
def Query.predicates (query : Query) : List Expression :=
  query.clauses.filterMap Clause.predicate?

/-! ### The tokens of a filter -/

theorem isLeaf_of_isPlainName (dialect : Dialect) {name : String} (plainName : IsPlainName name) :
    dialect.IsLeaf name := by
  refine .word name plainName.nonempty ?_ plainName.plain
  have characters := List.all_eq_true.mp plainName.characters
  rw [List.all_eq_true]
  intro character member
  simp [isWordCharacter, characters character member]

theorem tokens_spacedWord (dialect : Dialect) (word rest : List Char) (nonempty : word ≠ [])
    (inside : word.all isWordCharacter = true) :
    dialect.tokens (' ' :: (word ++ ' ' :: rest)) = .ofWord word :: dialect.tokens rest := by
  rw [tokens_blank, tokens_word dialect word _ nonempty inside
    (endsLeaf_of_endsToken (endsToken_blank rest)), tokens_blank]

theorem tokens_spacedSigns (dialect : Dialect) (first : Char) (further rest : List Char)
    (inside : (first :: further).all isSignCharacter = true) :
    dialect.tokens (' ' :: first :: (further ++ ' ' :: rest)) =
      .ofSigns first further :: dialect.tokens rest := by
  rw [tokens_blank, tokens_signs dialect first further rest inside]

/-- What is written for an operator is cut into its tokens. -/
theorem tokens_operator (dialect : Dialect) (operator : BinaryOperator) (nullRight : Bool)
    (rest : List Char) :
    dialect.tokens ((operator.text nullRight).toList ++ rest) =
      operator.tokens nullRight ++ dialect.tokens rest := by
  have word (word : List Char) (nonempty : word ≠ [])
      (inside : word.all isWordCharacter = true) :=
    tokens_spacedWord dialect word rest nonempty inside
  have signs (first : Char) (further : List Char)
      (inside : (first :: further).all isSignCharacter = true) :=
    tokens_spacedSigns dialect first further rest inside
  cases operator with
  | and => cases nullRight <;> exact word "AND".toList (by decide) (by decide)
  | or => cases nullRight <;> exact word "OR".toList (by decide) (by decide)
  | equal =>
    cases nullRight with
    | false => exact signs '=' [] (by decide)
    | true => exact word "IS".toList (by decide) (by decide)
  | notEqual =>
    cases nullRight with
    | false => exact signs '<' ['>'] (by decide)
    | true =>
      have second := word "NOT".toList (by decide) (by decide)
      rw [tokens_blank] at second
      exact (tokens_spacedWord dialect "IS".toList ("NOT".toList ++ ' ' :: rest) (by decide)
        (by decide)).trans (congrArg _ second)
  | less => cases nullRight <;> exact signs '<' [] (by decide)
  | lessEqual => cases nullRight <;> exact signs '<' ['='] (by decide)
  | greater => cases nullRight <;> exact signs '>' [] (by decide)
  | greaterEqual => cases nullRight <;> exact signs '>' ['='] (by decide)

theorem toList_binary (first sign second : String) :
    ("(" ++ (first ++ (sign ++ (second ++ ")")))).toList =
      '(' :: (first.toList ++ (sign.toList ++ (second.toList ++ [')']))) := by
  simp only [String.toList_append]
  rfl

theorem endsToken_operator (operator : BinaryOperator) (nullRight : Bool) (rest : List Char) :
    EndsToken ((operator.text nullRight).toList ++ rest) := by
  cases operator <;> cases nullRight <;> exact endsToken_blank _

/-- The text of an expression whose names are plain is cut into the tokens of its tree. -/
theorem tokens_expressionText (dialect : Dialect) (context : Context) (expression : Expression)
    (names : ∀ name ∈ expression.fields, IsPlainName (context.columnName name)) (text : String)
    (written : dialect.expressionText context expression = .ok text) :
    ∃ condition, dialect.condition context expression = .ok condition ∧
      condition.isNull = expression.isNullLiteral ∧
      ∀ rest, EndsToken rest →
        dialect.tokens (text.toList ++ rest) = condition.tokens ++ dialect.tokens rest := by
  induction expression generalizing text with
  | binary operator left right leftHypothesis rightHypothesis =>
    rw [Expression.fields, List.forall_mem_append] at names
    rw [expressionText_binary] at written
    obtain ⟨first, leftText, written⟩ := (bind_eq_ok_iff _ _ _).mp written
    obtain ⟨second, rightText, equal⟩ := (bind_eq_ok_iff _ _ _).mp written
    cases equal
    obtain ⟨leftTree, leftEqual, -, leftTokens⟩ := leftHypothesis names.1 first leftText
    obtain ⟨rightTree, rightEqual, rightNull, rightTokens⟩ :=
      rightHypothesis names.2 second rightText
    refine ⟨.binary operator leftTree rightTree, ?_, rfl, fun rest _ => ?_⟩
    · rw [Dialect.condition, leftEqual, rightEqual]
      rfl
    · rw [toList_binary, List.cons_append, List.append_assoc, List.append_assoc,
        List.append_assoc, List.singleton_append, tokens_opening,
        leftTokens _ (endsToken_operator operator _ _), tokens_operator,
        rightTokens _ (endsToken_closing rest), tokens_closing, ← rightNull]
      simp [Condition.tokens]
  | negation operand inductionHypothesis =>
    rw [expressionText_negation] at written
    obtain ⟨inner, operandText, equal⟩ := (bind_eq_ok_iff _ _ _).mp written
    cases equal
    obtain ⟨tree, equal, -, tokens⟩ := inductionHypothesis names inner operandText
    refine ⟨.negation tree, ?_, rfl, fun rest ends => ?_⟩
    · rw [Dialect.condition, equal]
      rfl
    · rw [String.toList_append, List.append_assoc]
      exact (tokens_spacedWord dialect "NOT".toList _ (by decide) (by decide)).trans
        (congrArg _ (tokens rest ends))
  | field name =>
    rw [expressionText_field] at written
    cases written
    have leaf := isLeaf_of_isPlainName dialect (names name List.mem_cons_self)
    exact ⟨.leaf (context.columnName name), rfl, rfl, fun rest ends =>
      tokens_leaf dialect _ rest leaf (endsLeaf_of_endsToken ends)⟩
  | literal value =>
    rw [expressionText_literal] at written
    cases null : value.isNull with
    | true =>
      rw [literal_of_isNull dialect _ value null] at written
      cases written
      refine ⟨.null, ?_, null.symm, fun rest ends => ?_⟩
      · rw [Dialect.condition, null]
        rfl
      · exact tokens_word dialect "NULL".toList rest (by decide) (by decide)
          (endsLeaf_of_endsToken ends)
    | false =>
      refine ⟨.leaf text, ?_, null.symm, fun rest ends => ?_⟩
      · rw [Dialect.condition, null, written]
        rfl
      · exact tokens_leaf dialect text rest (isLeaf_literal dialect _ value text null written)
          (endsLeaf_of_endsToken ends)

/-! ### The tokens of all filters -/

/-- The texts of filters with the word for conjunctions between them are cut into the tokens of
the trees. -/
theorem tokens_intercalate (dialect : Dialect) (context : Context) (first : Expression)
    (further : List Expression)
    (names : ∀ predicate ∈ first :: further, ∀ name ∈ predicate.fields,
      IsPlainName (context.columnName name))
    (texts : List String)
    (written : List.Forall₂
      (fun predicate text => dialect.expressionText context predicate = .ok text)
      (first :: further) texts) :
    ∃ tree trees,
      List.Forall₂ (fun predicate tree => dialect.condition context predicate = .ok tree)
        (first :: further) (tree :: trees) ∧
      ∀ rest, EndsToken rest →
        dialect.tokens ((" AND ".intercalate texts).toList ++ rest) =
          tree.tokens ++ (joinedTokens .and trees ++ dialect.tokens rest) := by
  induction further generalizing first texts with
  | nil =>
    obtain ⟨text, none, firstText, nothing, rfl⟩ := List.forall₂_cons_left_iff.mp written
    cases nothing
    obtain ⟨tree, equal, -, tokens⟩ := tokens_expressionText dialect context first
      (names first List.mem_cons_self) text firstText
    refine ⟨tree, [], .cons equal .nil, fun rest ends => ?_⟩
    rw [String.intercalate_singleton, tokens rest ends]
    rfl
  | cons next others inductionHypothesis =>
    obtain ⟨text, more, firstText, furtherTexts, rfl⟩ := List.forall₂_cons_left_iff.mp written
    obtain ⟨tree, equal, -, tokens⟩ := tokens_expressionText dialect context first
      (names first List.mem_cons_self) text firstText
    obtain ⟨nextTree, trees, furtherEqual, furtherTokens⟩ := inductionHypothesis next
      (fun predicate member => names predicate (List.mem_cons_of_mem _ member)) more furtherTexts
    obtain ⟨nextText, moreTexts, -, -, rfl⟩ := List.forall₂_cons_left_iff.mp furtherTexts
    refine ⟨tree, nextTree :: trees, .cons equal furtherEqual, fun rest ends => ?_⟩
    have ended : EndsToken (" AND ".toList ++
        ((" AND ".intercalate (nextText :: moreTexts)).toList ++ rest)) := endsToken_blank _
    have word : dialect.tokens (" AND ".toList ++
        ((" AND ".intercalate (nextText :: moreTexts)).toList ++ rest)) =
          .keyword .and :: (nextTree.tokens ++ (joinedTokens .and trees ++
            dialect.tokens rest)) :=
      (tokens_spacedWord dialect "AND".toList _ (by decide) (by decide)).trans
        (congrArg _ (furtherTokens rest ends))
    rw [String.intercalate_cons_cons, String.toList_append, String.toList_append,
      List.append_assoc, List.append_assoc, tokens _ ended, word]
    simp [joinedTokens]

/-! ### The operands of all filters -/

theorem keepsOperands_of_condition (dialect : Dialect) (context : Context)
    (expression : Expression) (tree : Condition)
    (built : dialect.condition context expression = .ok tree) :
    tree.keepsOperands = expression.keepsOperands ∧
      tree.isNegation = expression.isNegation := by
  induction expression generalizing tree with
  | binary operator left right leftHypothesis rightHypothesis =>
    rw [Dialect.condition] at built
    obtain ⟨first, leftBuilt, built⟩ := (bind_eq_ok_iff _ _ _).mp built
    obtain ⟨second, rightBuilt, equal⟩ := (bind_eq_ok_iff _ _ _).mp built
    cases equal
    obtain ⟨leftKeeps, leftNegation⟩ := leftHypothesis first leftBuilt
    obtain ⟨rightKeeps, rightNegation⟩ := rightHypothesis second rightBuilt
    refine ⟨?_, rfl⟩
    rw [Condition.keepsOperands, Expression.keepsOperands, leftKeeps, leftNegation, rightKeeps,
      rightNegation]
  | negation operand inductionHypothesis =>
    rw [Dialect.condition] at built
    obtain ⟨inner, operandBuilt, equal⟩ := (bind_eq_ok_iff _ _ _).mp built
    cases equal
    exact ⟨(inductionHypothesis inner operandBuilt).1, rfl⟩
  | field name =>
    cases built
    exact ⟨rfl, rfl⟩
  | literal value =>
    rw [Dialect.condition] at built
    split at built
    · cases built
      exact ⟨rfl, rfl⟩
    · obtain ⟨text, -, equal⟩ := (bind_eq_ok_iff _ _ _).mp built
      cases equal
      exact ⟨rfl, rfl⟩

theorem forall_keepsOperands_iff (dialect : Dialect) (context : Context)
    (predicates : List Expression) (trees : List Condition)
    (built : List.Forall₂ (fun predicate tree => dialect.condition context predicate = .ok tree)
      predicates trees) :
    (∀ tree ∈ trees, tree.keepsOperands = true) ↔
      ∀ predicate ∈ predicates, predicate.keepsOperands = true := by
  induction built with
  | nil => simp
  | cons first _ inductionHypothesis =>
    rw [List.forall_mem_cons, List.forall_mem_cons, inductionHypothesis,
      (keepsOperands_of_condition dialect context _ _ first).1]

/-! ### The condition of a statement -/

theorem isPlainName_columnName (table : Table)
    (columns : ∀ column ∈ table.columns, IsPlainName column.name) (name : String)
    (plain : IsPlainName name) : IsPlainName (table.columnName name) := by
  unfold Table.columnName
  split
  case h_1 column found => exact columns column (List.mem_of_find?_eq_some found)
  case h_2 => exact plain

/-- Of the clauses of a statement the filters have predicates. -/
theorem predicates_eq (query : Query) (ordered : SelectClauses)
    (filtered : query.clauses.filter (!·.isCount) = ordered.toList) :
    query.predicates = ordered.predicates := by
  have noKey (key : SortKey) : key.clause.predicate? = none := by
    unfold SortKey.clause
    split <;> rfl
  have withoutCounts : query.predicates =
      (query.clauses.filter (!·.isCount)).filterMap Clause.predicate? := by
    rw [List.filterMap_filter]
    refine congrArg (List.filterMap · query.clauses) (funext fun clause => ?_)
    cases clause <;> rfl
  rw [withoutCounts, filtered, SelectClauses.toList, List.filterMap_append, List.filterMap_append,
    List.filterMap_map, List.filterMap_map, List.filterMap_map]
  have keys : ordered.keys.filterMap (Clause.predicate? ∘ SortKey.clause) = [] :=
    List.filterMap_eq_nil_iff.mpr fun key _ => noKey key
  have limits : ordered.limit.toList.filterMap (Clause.predicate? ∘ Clause.limit) = [] :=
    List.filterMap_eq_nil_iff.mpr fun _ _ => rfl
  rw [keys, limits, List.append_nil, List.append_nil]
  exact List.filterMap_some

theorem orderText_start (keys : List String) (further : keys ≠ []) :
    ∃ rest, orderText keys = " ORDER BY" ++ rest := by
  induction keys using List.reverseRecOn with
  | nil => exact absurd rfl further
  | append_singleton keys key inductionHypothesis =>
    by_cases first : keys = []
    · subst first
      refine ⟨" " ++ key, ?_⟩
      rw [← String.append_assoc]
      rfl
    · obtain ⟨rest, start⟩ := inductionHypothesis first
      rw [orderText_append keys first, appendKey, start]
      by_cases nothing : rest = ""
      · subst nothing
        refine ⟨", " ++ key, ?_⟩
        rw [← String.append_assoc]
        rfl
      · refine ⟨dropFinalBlank rest ++ ", " ++ key, ?_⟩
        rw [dropFinalBlank_append _ _ nothing]
        simp only [String.append_assoc]

/-- What stands behind the condition of a statement does not belong to it. -/
theorem tokens_behind (dialect : Dialect) (keys : List String) (limit : Option Nat) :
    EndsToken (orderText keys ++ limitText limit).toList ∧
      ∀ token ∈ (dialect.tokens (orderText keys ++ limitText limit).toList).head?,
        token.isInCondition = false := by
  have clause (word rest : List Char) (nonempty : word ≠ [])
      (inside : word.all isWordCharacter = true)
      (ends : (Token.ofWord word).isInCondition = false) :
      EndsToken (' ' :: (word ++ ' ' :: rest)) ∧
        ∀ token ∈ (dialect.tokens (' ' :: (word ++ ' ' :: rest))).head?,
          token.isInCondition = false := by
    refine ⟨endsToken_blank _, ?_⟩
    rw [tokens_spacedWord dialect word rest nonempty inside]
    intro token member
    cases member
    exact ends
  by_cases unordered : keys = []
  · subst unordered
    rw [show orderText [] = "" from rfl, String.empty_append]
    cases limit with
    | none =>
      refine ⟨endsToken_nil, ?_⟩
      rw [show (limitText none).toList = [] from rfl, tokens_nil]
      exact fun token member => nomatch member
    | some count =>
      rw [limitText, String.toList_append]
      exact clause "LIMIT".toList _ (by decide) (by decide) rfl
  · obtain ⟨rest, start⟩ := orderText_start keys unordered
    rw [start, String.append_assoc, String.toList_append]
    exact clause "ORDER".toList ('B' :: 'Y' :: (rest ++ limitText limit).toList) (by decide)
      (by decide) rfl

/-- A server reads the condition of a statement, if there is one, as the conjunction of the
filters in their order, with all operators and negations on their own operands, exactly if no
filter has a comparison with a negation for an operand. All names are supposed to be plain
words. -/
theorem readWhere_iff_keepsOperands (dialect : Dialect) (query : Query) (text : String)
    (columns : ∀ column ∈ query.source.columns, IsPlainName column.name)
    (fields : ∀ predicate ∈ query.predicates, ∀ name ∈ predicate.fields, IsPlainName name)
    (filtered : query.predicates ≠ [])
    (written : (dialect.writeQuery query).toText = .ok text) :
    ∃ (first : Condition) (further : List Condition) (body : String),
      query.predicates.mapM (dialect.condition ⟨.selectWhere, some query.source⟩) =
          .ok (first :: further) ∧
        text = query.selectStart ++ (" WHERE " ++ body) ∧
        (dialect.readWhere body = some (Condition.conjunction first further) ↔
          ∀ predicate ∈ query.predicates, predicate.keepsOperands = true) := by
  obtain ⟨ordered, predicateTexts, keyTexts, clauses, predicatesWritten, -, rfl⟩ :=
    (toText_writeQuery_eq_ok_iff dialect query text).mp written
  have predicates := predicates_eq query ordered clauses
  rw [← predicates] at predicatesWritten
  have names : ∀ predicate ∈ query.predicates, ∀ name ∈ predicate.fields,
      IsPlainName (query.source.columnName name) := fun predicate member name field =>
    isPlainName_columnName query.source columns name (fields predicate member name field)
  obtain ⟨ends, clause⟩ := tokens_behind dialect keyTexts ordered.limit
  cases all : query.predicates with
  | nil => exact absurd all filtered
  | cons predicate further =>
    rw [all, mapM_eq_ok_iff] at predicatesWritten
    rw [all] at names
    obtain ⟨tree, trees, built, tokens⟩ := tokens_intercalate dialect
      ⟨.selectWhere, some query.source⟩ predicate further names predicateTexts predicatesWritten
    have cut := tokens _ ends
    rw [← String.toList_append] at cut
    obtain ⟨text, texts, -, -, rfl⟩ := List.forall₂_cons_left_iff.mp predicatesWritten
    refine ⟨tree, trees, " AND ".intercalate (text :: texts) ++
      (orderText keyTexts ++ limitText ordered.limit), (mapM_eq_ok_iff _ _ _).mpr built, ?_, ?_⟩
    · simp only [whereText, String.append_assoc]
    · rw [readWhere_of_tokens dialect _ tree trees _ cut clause, groupedConjunction_eq_some_iff]
      exact forall_keepsOperands_iff dialect _ _ _ built

/-- A query that compares a negation. -/
def comparedNegation : Query where
  source := ⟨"T", [{ field := "a", name := "a" }, { field := "b", name := "b" }]⟩
  clauses := [.filter (.binary .equal (.negation (.field "a")) (.field "b"))]

theorem readWhere_comparedNegation :
    (∀ column ∈ comparedNegation.source.columns, IsPlainName column.name) ∧
      (∀ predicate ∈ comparedNegation.predicates, ∀ name ∈ predicate.fields, IsPlainName name) ∧
      comparedNegation.predicates ≠ [] ∧
      (Dialect.standard.writeQuery comparedNegation).toText =
        .ok "SELECT * FROM T WHERE ( NOT a = b)" ∧
      ∃ (first : Condition) (further : List Condition) (body : String),
        comparedNegation.predicates.mapM
            (Dialect.standard.condition ⟨.selectWhere, some comparedNegation.source⟩) =
          .ok (first :: further) ∧
        "SELECT * FROM T WHERE ( NOT a = b)" =
          comparedNegation.selectStart ++ (" WHERE " ++ body) ∧
        Dialect.standard.readWhere body ≠ some (Condition.conjunction first further) := by
  have columns : ∀ column ∈ comparedNegation.source.columns, IsPlainName column.name := by
    intro column member
    simp only [comparedNegation, List.mem_cons, List.not_mem_nil, or_false] at member
    rcases member with rfl | rfl <;> exact ⟨by decide, by decide, by decide⟩
  have fields : ∀ predicate ∈ comparedNegation.predicates, ∀ name ∈ predicate.fields,
      IsPlainName name := by
    intro predicate member name field
    cases List.mem_singleton.mp member
    have cases : name = "a" ∨ name = "b" := by simpa [Expression.fields] using field
    rcases cases with rfl | rfl <;> exact ⟨by decide, by decide, by decide⟩
  have filtered : comparedNegation.predicates ≠ [] := List.cons_ne_nil _ _
  have written : (Dialect.standard.writeQuery comparedNegation).toText =
      .ok "SELECT * FROM T WHERE ( NOT a = b)" := rfl
  obtain ⟨first, further, body, built, start, reads⟩ :=
    readWhere_iff_keepsOperands .standard comparedNegation _ columns fields filtered written
  refine ⟨columns, fields, filtered, written, first, further, body, built, start, fun read => ?_⟩
  have kept := reads.mp read _ (List.mem_singleton.mpr rfl)
  exact absurd kept (by decide)

end SqlRecords
