/-
This file says which comparisons with a literal null are tests for null. The writer looks at the
right operand only: a comparison for equality with a literal null on its right is the test of its
left operand, and one with a literal null on its left alone keeps its sign, so that no row is
ever found by it.

A comparison is written in one piece wherever it stands in an expression. For plain names the
tokens of the whole text tell the same: a null stands beside the sign of a comparison for
equality exactly if some comparison has a literal null on its left, behind negations perhaps, and
none on its right.
-/

import Mathlib.Data.List.Chain
import SqlRecords.Proofs.Sql.WhereCondition

namespace SqlRecords

/-! ### Comparisons with a null -/

/-- Whether an operator compares for equality. -/
def BinaryOperator.isEquality : BinaryOperator → Bool
  | equal | notEqual => true
  | _ => false

/-- The test for null that a comparison for equality with a null stands for, of an operand with
the given text. -/
def BinaryOperator.nullTest (operator : BinaryOperator) (operand : String) : String :=
  "(" ++ operand ++ (if operator = .notEqual then " IS NOT NULL)" else " IS NULL)")

namespace Expression

/-- All expressions that an expression is made of, with itself. -/
def parts : Expression → List Expression
  | binary operator left right => binary operator left right :: (left.parts ++ right.parts)
  | negation operand => negation operand :: operand.parts
  | field name => [field name]
  | literal value => [literal value]

/-- Whether an expression is a literal null behind any number of negations. -/
def endsInNull : Expression → Bool
  | negation operand => operand.endsInNull
  | literal value => value.isNull
  | _ => false

end Expression

namespace Condition

/-- Whether a condition is a null behind any number of negations. -/
def endsInNull : Condition → Bool
  | null => true
  | negation operand => operand.endsInNull
  | _ => false

/-- Whether every comparison for equality in a condition whose left side ends in a null has one
for its right side, so that it is a test for null. -/
def testsNulls : Condition → Bool
  | leaf _ | null => true
  | negation operand => operand.testsNulls
  | binary operator left right =>
    (!(operator.isEquality && left.endsInNull) || right.isNull) &&
      (left.testsNulls && right.testsNulls)

end Condition

/-! ### Parts of a text -/

/-- Every part of an expression is written in one piece. -/
theorem isInfix_of_mem_parts {dialect : Dialect} {context : Context} {whole part : Expression}
    (member : part ∈ whole.parts) {text : String}
    (written : dialect.expressionText context whole = .ok text) :
    ∃ piece, dialect.expressionText context part = .ok piece ∧
      piece.toList <:+: text.toList := by
  induction whole generalizing text with
  | binary operator left right leftHypothesis rightHypothesis =>
    rcases List.mem_cons.mp member with rfl | inside
    · exact ⟨text, written, List.infix_refl _⟩
    rw [expressionText_binary] at written
    obtain ⟨first, leftText, written⟩ := (bind_eq_ok_iff _ _ _).mp written
    obtain ⟨second, rightText, equal⟩ := (bind_eq_ok_iff _ _ _).mp written
    cases equal
    rw [toList_binary]
    rcases List.mem_append.mp inside with inLeft | inRight
    · obtain ⟨piece, partText, inFirst⟩ := leftHypothesis inLeft leftText
      exact ⟨piece, partText, List.infix_cons (inFirst.trans (List.prefix_append _ _).isInfix)⟩
    · obtain ⟨piece, partText, inSecond⟩ := rightHypothesis inRight rightText
      refine ⟨piece, partText, inSecond.trans ?_⟩
      exact List.infix_cons ((List.prefix_append _ _).isInfix.trans
        ((List.suffix_append _ _).trans (List.suffix_append _ _)).isInfix)
  | negation operand inductionHypothesis =>
    rcases List.mem_cons.mp member with rfl | inside
    · exact ⟨text, written, List.infix_refl _⟩
    rw [expressionText_negation] at written
    obtain ⟨inner, operandText, equal⟩ := (bind_eq_ok_iff _ _ _).mp written
    cases equal
    obtain ⟨piece, partText, inInner⟩ := inductionHypothesis inside operandText
    rw [String.toList_append]
    exact ⟨piece, partText, inInner.trans (List.suffix_append _ _).isInfix⟩
  | field name =>
    cases List.mem_singleton.mp member
    exact ⟨text, written, List.infix_refl _⟩
  | literal value =>
    cases List.mem_singleton.mp member
    exact ⟨text, written, List.infix_refl _⟩

/-! ### The text of a comparison -/

theorem expressionText_of_isNullLiteral (dialect : Dialect) (context : Context)
    (expression : Expression) (null : expression.isNullLiteral = true) :
    dialect.expressionText context expression = .ok "NULL" := by
  cases expression with
  | literal value =>
    rw [expressionText_literal]
    exact literal_of_isNull dialect _ value null
  | _ => cases null

/-- A comparison with a null on its right is the test of its left operand. -/
theorem binaryText_null_right (operator : BinaryOperator) (equality : operator.isEquality = true)
    (first : String) :
    "(" ++ (first ++ (operator.text true ++ ("NULL" ++ ")"))) = operator.nullTest first := by
  have ends : operator.text true ++ ("NULL" ++ ")") =
      if operator = .notEqual then " IS NOT NULL)" else " IS NULL)" := by
    cases operator with
    | equal => rfl
    | notEqual => rfl
    | _ => cases equality
  rw [ends, ← String.append_assoc]
  rfl

/-- A comparison with a null on its left alone is no test of its right operand: its text is
shorter than that of the test. -/
theorem binaryText_null_left_ne (operator : BinaryOperator)
    (equality : operator.isEquality = true) (second : String) :
    "(" ++ ("NULL" ++ (operator.text false ++ (second ++ ")"))) ≠ operator.nullTest second := by
  intro equal
  have lengths := congrArg String.length equal
  have shorter : (operator.text false).length <
      (if operator = .notEqual then " IS NOT NULL)" else " IS NULL)").length - 5 := by
    cases operator with
    | equal => decide
    | notEqual => decide
    | _ => cases equality
  simp only [BinaryOperator.nullTest, String.length_append] at lengths
  have opening : "(".length = 1 := rfl
  have closing : ")".length = 1 := rfl
  have null : "NULL".length = 4 := rfl
  omega

/-! ### Tokens side by side -/

/-- Whether a token is the sign of a comparison for equality. -/
def Token.isEquality : Token → Bool
  | comparison operator => operator.isEquality
  | _ => false

/-- Whether two tokens that stand side by side are not a null and the sign of a comparison for
equality. -/
def Token.Apart (first second : Token) : Prop :=
  ¬ (first = .keyword .null ∧ second.isEquality = true) ∧
    ¬ (first.isEquality = true ∧ second = .keyword .null)

/-- Whether a token is a null or the sign of a comparison for equality. -/
def Token.isCompared (token : Token) : Bool :=
  token == .keyword .null || token.isEquality

/-- A token that is neither keeps the tokens around it apart. -/
theorem isChain_append_cons_iff_of_not_isCompared (token : Token)
    (free : token.isCompared = false) (before behind : List Token) :
    (before ++ token :: behind).IsChain Token.Apart ↔
      before.IsChain Token.Apart ∧ behind.IsChain Token.Apart := by
  rw [Token.isCompared, Bool.or_eq_false_iff, beq_eq_false_iff_ne] at free
  have noSign : ¬ token.isEquality = true := Bool.eq_false_iff.mp free.2
  rw [List.isChain_append, List.isChain_cons]
  constructor
  · exact fun ⟨beforeApart, ⟨_, behindApart⟩, _⟩ => ⟨beforeApart, behindApart⟩
  · rintro ⟨beforeApart, behindApart⟩
    refine ⟨beforeApart, ⟨fun next _ => ?_, behindApart⟩, fun last _ next same => ?_⟩
    · exact ⟨fun both => free.1 both.1, fun both => noSign both.1⟩
    · cases same
      exact ⟨fun both => noSign both.2, fun both => free.1 both.2⟩

theorem isChain_cons_iff_of_not_isCompared (token : Token) (free : token.isCompared = false)
    (behind : List Token) :
    (token :: behind).IsChain Token.Apart ↔ behind.IsChain Token.Apart :=
  (isChain_append_cons_iff_of_not_isCompared token free [] behind).trans (and_iff_right .nil)

theorem head?_tokens_iff (condition : Condition) :
    condition.tokens.head? = some (.keyword .null) ↔ condition.isNull = true := by
  cases condition <;> simp [Condition.tokens, Condition.isNull]

theorem getLast?_tokens_iff (condition : Condition) :
    condition.tokens.getLast? = some (.keyword .null) ↔ condition.endsInNull = true := by
  induction condition with
  | leaf text => simp [Condition.tokens, Condition.endsInNull]
  | null => simp [Condition.tokens, Condition.endsInNull]
  | binary operator left right =>
    simp [Condition.tokens, Condition.endsInNull, List.getLast?_cons]
  | negation operand inductionHypothesis =>
    rw [Condition.endsInNull, ← inductionHypothesis, Condition.tokens, List.getLast?_cons]
    cases operand.tokens.getLast? <;> simp

/-- The sign of a comparison for equality keeps tokens apart that are no nulls where it
stands. -/
theorem isChain_around_sign_iff (sign : Token) (equality : sign.isEquality = true)
    (left right : List Token) (begins : right.head? ≠ some (.keyword .null)) :
    (left ++ sign :: right).IsChain Token.Apart ↔
      left.getLast? ≠ some (.keyword .null) ∧
        left.IsChain Token.Apart ∧ right.IsChain Token.Apart := by
  have noNull : sign ≠ .keyword .null := by
    rintro rfl
    cases equality
  rw [List.isChain_append, List.isChain_cons]
  constructor
  · rintro ⟨leftApart, ⟨-, rightApart⟩, beside⟩
    exact ⟨fun ends => (beside _ ends sign rfl).1 ⟨rfl, equality⟩, leftApart, rightApart⟩
  · rintro ⟨ends, leftApart, rightApart⟩
    refine ⟨leftApart, ⟨fun next found => ?_, rightApart⟩, fun last found next same => ?_⟩
    · exact ⟨fun both => noNull both.1, fun both => begins (both.2 ▸ found)⟩
    · cases same
      exact ⟨fun both => ends (both.1 ▸ found), fun both => noNull both.2⟩

/-- Around an operator the tokens stay apart unless it is a comparison for equality, the left
side ends in a null and the right side is none. -/
theorem isChain_around_operator_iff (operator : BinaryOperator) (nullRight : Bool)
    (left right : List Token) (begins : right.head? = some (.keyword .null) ↔ nullRight = true) :
    (left ++ (operator.tokens nullRight ++ right)).IsChain Token.Apart ↔
      (operator.isEquality = true → left.getLast? = some (.keyword .null) →
        nullRight = true) ∧ left.IsChain Token.Apart ∧ right.IsChain Token.Apart := by
  have word (token : Token) (free : token.isCompared = false) :=
    isChain_append_cons_iff_of_not_isCompared token free left right
  have sign (noNull : nullRight = false) (equality : operator.isEquality = true) :
      (left ++ .comparison operator :: right).IsChain Token.Apart ↔
        (operator.isEquality = true → left.getLast? = some (.keyword .null) →
          nullRight = true) ∧ left.IsChain Token.Apart ∧ right.IsChain Token.Apart := by
    subst noNull
    have other : right.head? ≠ some (.keyword .null) := fun found =>
      Bool.false_ne_true (begins.mp found)
    refine (isChain_around_sign_iff (.comparison operator) equality left right other).trans
      (and_congr_left' ?_)
    exact ⟨fun ends _ found => absurd found ends,
      fun ends found => Bool.false_ne_true (ends equality found)⟩
  cases operator with
  | equal =>
    cases nullRight with
    | true => exact (word (.keyword .is) rfl).trans (and_iff_right fun _ _ => rfl).symm
    | false => exact sign rfl rfl
  | notEqual =>
    cases nullRight with
    | true =>
      refine (isChain_append_cons_iff_of_not_isCompared (.keyword .is) rfl left
        (.keyword .not :: right)).trans ?_
      rw [isChain_cons_iff_of_not_isCompared _ rfl]
      exact (and_iff_right fun _ _ => rfl).symm
    | false => exact sign rfl rfl
  | _ => exact (word _ rfl).trans (and_iff_right fun equality => nomatch equality).symm

/-- No null and sign of a comparison for equality stand side by side in the tokens of a
condition exactly if its comparisons with nulls are tests. -/
theorem isChain_tokens_iff (condition : Condition) :
    condition.tokens.IsChain Token.Apart ↔ condition.testsNulls = true := by
  induction condition with
  | leaf text => simp [Condition.tokens, Condition.testsNulls]
  | null => simp [Condition.tokens, Condition.testsNulls]
  | negation operand inductionHypothesis =>
    rw [Condition.tokens, isChain_cons_iff_of_not_isCompared _ rfl, inductionHypothesis,
      Condition.testsNulls]
  | binary operator left right leftHypothesis rightHypothesis =>
    rw [Condition.tokens, isChain_cons_iff_of_not_isCompared _ rfl, ← List.append_assoc,
      ← List.append_assoc, isChain_append_cons_iff_of_not_isCompared _ rfl, List.append_assoc,
      isChain_around_operator_iff operator _ _ _ (head?_tokens_iff right), leftHypothesis,
      rightHypothesis, getLast?_tokens_iff, Condition.testsNulls]
    cases operator.isEquality <;> cases left.endsInNull <;> simp

/-! ### The nulls of an expression and of its tree -/

theorem endsInNull_of_condition {dialect : Dialect} {context : Context} {expression : Expression}
    {tree : Condition} (built : dialect.condition context expression = .ok tree) :
    tree.isNull = expression.isNullLiteral ∧ tree.endsInNull = expression.endsInNull := by
  induction expression generalizing tree with
  | binary operator left right =>
    obtain ⟨leftTree, -, built⟩ := (bind_eq_ok_iff _ _ _).mp built
    obtain ⟨rightTree, -, equal⟩ := (bind_eq_ok_iff _ _ _).mp built
    cases equal
    exact ⟨rfl, rfl⟩
  | negation operand inductionHypothesis =>
    obtain ⟨inner, operandBuilt, equal⟩ := (bind_eq_ok_iff _ _ _).mp built
    cases equal
    exact ⟨rfl, (inductionHypothesis operandBuilt).2⟩
  | field name =>
    cases built
    exact ⟨rfl, rfl⟩
  | literal value =>
    rw [Dialect.condition] at built
    split at built
    case isTrue null =>
      cases built
      exact ⟨null.symm, null.symm⟩
    case isFalse content =>
      obtain ⟨text, -, equal⟩ := (bind_eq_ok_iff _ _ _).mp built
      cases equal
      rw [Bool.not_eq_true] at content
      exact ⟨content.symm, content.symm⟩

/-- The comparisons with nulls in the tree of an expression are tests exactly if those in all its
parts are. -/
theorem testsNulls_condition_iff {dialect : Dialect} {context : Context} {expression : Expression}
    {tree : Condition} (built : dialect.condition context expression = .ok tree) :
    tree.testsNulls = true ↔
      ∀ operator left right, .binary operator left right ∈ expression.parts →
        operator.isEquality = true → left.endsInNull = true → right.isNullLiteral = true := by
  induction expression generalizing tree with
  | binary operator left right leftHypothesis rightHypothesis =>
    obtain ⟨leftTree, leftBuilt, built⟩ := (bind_eq_ok_iff _ _ _).mp built
    obtain ⟨rightTree, rightBuilt, equal⟩ := (bind_eq_ok_iff _ _ _).mp built
    cases equal
    rw [Condition.testsNulls, Bool.and_eq_true, Bool.and_eq_true, leftHypothesis leftBuilt,
      rightHypothesis rightBuilt, (endsInNull_of_condition leftBuilt).2,
      (endsInNull_of_condition rightBuilt).1]
    simp only [Expression.parts, List.mem_cons, List.mem_append, Expression.binary.injEq]
    constructor
    · rintro ⟨here, inLeft, inRight⟩ other first second (⟨rfl, rfl, rfl⟩ | member | member)
      · intro equality ends
        rwa [equality, ends] at here
      · exact inLeft other first second member
      · exact inRight other first second member
    · intro tested
      refine ⟨?_, fun other first second member => tested _ _ _ (.inr (.inl member)),
        fun other first second member => tested _ _ _ (.inr (.inr member))⟩
      have here := tested operator left right (.inl ⟨rfl, rfl, rfl⟩)
      cases equality : operator.isEquality with
      | false => rfl
      | true =>
        cases ends : left.endsInNull with
        | false => rfl
        | true => exact here equality ends
  | negation operand inductionHypothesis =>
    obtain ⟨inner, operandBuilt, equal⟩ := (bind_eq_ok_iff _ _ _).mp built
    cases equal
    rw [Condition.testsNulls, inductionHypothesis operandBuilt]
    simp [Expression.parts]
  | field name =>
    cases built
    simp [Condition.testsNulls, Expression.parts]
  | literal value =>
    have noComparison : tree.testsNulls = true := by
      rw [Dialect.condition] at built
      split at built
      · cases built
        rfl
      · obtain ⟨text, -, equal⟩ := (bind_eq_ok_iff _ _ _).mp built
        cases equal
        rfl
    simp [noComparison, Expression.parts]

/-! ### The null of a comparison -/

/-- A comparison for equality that stands anywhere in an expression, and has a literal null for
an operand, is written as the test for null of the other operand exactly if the null is its
right operand. For plain names there is a null beside the sign of a comparison for equality in
the text exactly if some comparison has a literal null on its left, behind negations perhaps, and
none on its right. -/
theorem nullTest_iff_null_right {dialect : Dialect} {context : Context} {whole : Expression}
    {text : String} (written : dialect.expressionText context whole = .ok text) :
    (∀ operator left right, .binary operator left right ∈ whole.parts →
      operator.isEquality = true →
        ∃ leftText rightText piece,
          dialect.expressionText context left = .ok leftText ∧
          dialect.expressionText context right = .ok rightText ∧
          dialect.expressionText context (.binary operator left right) = .ok piece ∧
          piece.toList <:+: text.toList ∧
          (right.isNullLiteral = true → piece = operator.nullTest leftText) ∧
          (left.isNullLiteral = true →
            (piece = operator.nullTest rightText ↔ right.isNullLiteral = true))) ∧
      ((∀ name ∈ whole.fields, IsPlainName (context.columnName name)) →
        ((dialect.tokens text.toList).IsChain Token.Apart ↔
          ∀ operator left right, .binary operator left right ∈ whole.parts →
            operator.isEquality = true → left.endsInNull = true →
              right.isNullLiteral = true)) := by
  constructor
  · intro operator left right member equality
    obtain ⟨piece, pieceText, inside⟩ := isInfix_of_mem_parts member written
    have parts := pieceText
    rw [expressionText_binary] at parts
    obtain ⟨first, leftText, parts⟩ := (bind_eq_ok_iff _ _ _).mp parts
    obtain ⟨second, rightText, equal⟩ := (bind_eq_ok_iff _ _ _).mp parts
    cases equal
    have test (null : right.isNullLiteral = true) : second = "NULL" ∧
        "(" ++ (first ++ (operator.text right.isNullLiteral ++ (second ++ ")"))) =
          operator.nullTest first := by
      rw [expressionText_of_isNullLiteral _ _ right null] at rightText
      cases rightText
      rw [null]
      exact ⟨rfl, binaryText_null_right operator equality first⟩
    refine ⟨first, second, _, leftText, rightText, pieceText, inside, fun null => (test null).2,
      fun null => ?_⟩
    rw [expressionText_of_isNullLiteral _ _ left null] at leftText
    cases leftText
    constructor
    · intro same
      by_contra other
      rw [Bool.not_eq_true] at other
      rw [other] at same
      exact binaryText_null_left_ne operator equality second same
    · intro null
      obtain ⟨rfl, same⟩ := test null
      exact same
  · intro names
    obtain ⟨tree, built, -, tokens⟩ :=
      tokens_expressionText dialect context whole names text written
    have cut := tokens [] endsToken_nil
    rw [List.append_nil, tokens_nil, List.append_nil] at cut
    rw [cut, isChain_tokens_iff]
    exact testsNulls_condition_iff built

/-- A condition with a null on the left of a comparison and one on the right of another. -/
def missingOnEitherSide : Expression :=
  .negation (.binary .or (.binary .equal (.literal (.integer .int32 none)) (.field "a"))
    (.binary .notEqual (.field "b") (.literal .null)))

theorem nullTest_iff_null_right_missingOnEitherSide :
    Dialect.standard.expressionText ⟨.selectWhere, none⟩ missingOnEitherSide =
        .ok " NOT ((NULL = a) OR (b IS NOT NULL))" ∧
      (∃ piece, Dialect.standard.expressionText ⟨.selectWhere, none⟩
          (.binary .equal (.literal (.integer .int32 none)) (.field "a")) = .ok piece ∧
        piece.toList <:+: " NOT ((NULL = a) OR (b IS NOT NULL))".toList ∧
        piece ≠ "(a IS NULL)") ∧
      ¬ (Dialect.standard.tokens " NOT ((NULL = a) OR (b IS NOT NULL))".toList).IsChain
        Token.Apart := by
  have written : Dialect.standard.expressionText ⟨.selectWhere, none⟩ missingOnEitherSide =
      .ok " NOT ((NULL = a) OR (b IS NOT NULL))" := rfl
  obtain ⟨tests, apart⟩ := nullTest_iff_null_right written
  have names : ∀ name ∈ missingOnEitherSide.fields, IsPlainName name := by
    intro name member
    have cases : name = "a" ∨ name = "b" := by
      simpa [missingOnEitherSide, Expression.fields] using member
    rcases cases with rfl | rfl <;> exact ⟨by decide, by decide, by decide⟩
  refine ⟨written, ?_, fun chain => ?_⟩
  · obtain ⟨first, second, piece, -, rightText, pieceText, inside, -, test⟩ :=
      tests .equal (.literal (.integer .int32 none)) (.field "a") (by decide) rfl
    cases rightText
    refine ⟨piece, pieceText, inside, fun same => ?_⟩
    exact Bool.false_ne_true ((test rfl).mp same)
  · have tested := (apart names).mp chain .equal (.literal (.integer .int32 none)) (.field "a")
      (by decide) rfl rfl
    exact Bool.false_ne_true tested

end SqlRecords
