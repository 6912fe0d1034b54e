/-
This file says how written conditions are grouped. Operators between two conditions stand in
parentheses and negations stand in front of their operands without any, which is enough
everywhere but beside a comparison: a comparison binds tighter than a negation.

A negation on the left of a comparison takes the whole comparison for its operand, and a
negation on the right of one cannot be read. `Condition.grouped` says so for trees of any depth;
it is proved to be what the levels of readers do. A tree comes back from its tokens exactly if
no comparison in it has a negation for an operand.
-/

import SqlRecords.Proofs.Results
import SqlRecords.Proofs.Sql.ConditionReader

namespace SqlRecords

/-! ### Written conditions -/

/-- Whether an operator compares values, and does not join conditions. -/
def BinaryOperator.isComparison : BinaryOperator → Bool
  | and | or => false
  | _ => true

/-- The tokens of an operator, for a right side that is a null or not. -/
def BinaryOperator.tokens (nullRight : Bool) : BinaryOperator → List Token
  | and => [.keyword .and]
  | or => [.keyword .or]
  | equal => if nullRight then [.keyword .is] else [.comparison .equal]
  | notEqual => if nullRight then [.keyword .is, .keyword .not] else [.comparison .notEqual]
  | operator => [.comparison operator]

namespace Condition

/-- Whether a condition is a null. -/
def isNull : Condition → Bool
  | null => true
  | _ => false

/-- Whether a condition is a negation. -/
def isNegation : Condition → Bool
  | negation _ => true
  | _ => false

/-- The tokens of a condition as it is written. -/
def tokens : Condition → List Token
  | leaf text => [.leaf text]
  | null => [.keyword .null]
  | negation operand => .keyword .not :: operand.tokens
  | binary operator left right =>
    .opening :: (left.tokens ++ (operator.tokens right.isNull ++ (right.tokens ++ [.closing])))

/-- How deep the parentheses of a condition are nested. -/
def depth : Condition → Nat
  | leaf _ | null => 0
  | negation operand => operand.depth
  | binary _ left right => max left.depth right.depth + 1

/-- What a written condition is read as when the operand in front of something further is
changed by it. What stands behind a negation changes the operand of the negation; in
parentheses nothing outside of them matters. -/
def grouped : Condition → (Condition → Option Condition) → Option Condition
  | leaf text, behind => behind (.leaf text)
  | null, behind => behind .null
  | negation operand, behind => (operand.grouped behind).map .negation
  | binary operator left right, behind =>
    (if operator.isComparison then
      left.grouped fun first =>
        if right.isNegation then none else (right.grouped some).map (.binary operator first)
    else do
      let first ← left.grouped some
      let second ← right.grouped some
      some (.binary operator first second)).bind behind

/-- Whether no comparison in a condition has a negation for an operand. -/
def keepsOperands : Condition → Bool
  | leaf _ | null => true
  | negation operand => operand.keepsOperands
  | binary operator left right =>
    left.keepsOperands && right.keepsOperands &&
      !(operator.isComparison && (left.isNegation || right.isNegation))

/-! ### Conditions that come back as they are -/

theorem grouped_eq_bind (condition : Condition) (positive : condition.isNegation = false)
    (behind : Condition → Option Condition) :
    condition.grouped behind = (condition.grouped some).bind behind := by
  cases condition with
  | leaf text => rfl
  | null => rfl
  | negation operand => cases positive
  | binary operator left right => simp only [grouped, Option.bind_fun_some]

theorem grouped_of_keepsOperands (condition : Condition) (keeps : condition.keepsOperands = true) :
    condition.grouped some = some condition := by
  induction condition with
  | leaf text => rfl
  | null => rfl
  | negation operand inductionHypothesis =>
    rw [grouped, inductionHypothesis keeps, Option.map_some]
  | binary operator left right leftHypothesis rightHypothesis =>
    simp only [keepsOperands, Bool.and_eq_true, Bool.not_eq_true'] at keeps
    obtain ⟨⟨keepsLeft, keepsRight⟩, free⟩ := keeps
    rw [grouped, Option.bind_fun_some, rightHypothesis keepsRight]
    cases comparison : operator.isComparison with
    | false =>
      rw [if_neg Bool.false_ne_true, leftHypothesis keepsLeft]
      rfl
    | true =>
      rw [comparison, Bool.true_and, Bool.or_eq_false_iff] at free
      rw [if_pos rfl, grouped_eq_bind left free.1, leftHypothesis keepsLeft, free.2]
      rfl

theorem keepsOperands_of_grouped (condition : Condition)
    (kept : condition.grouped some = some condition) : condition.keepsOperands = true := by
  induction condition with
  | leaf text => rfl
  | null => rfl
  | negation operand inductionHypothesis =>
    obtain ⟨read, grouped, equal⟩ := Option.map_eq_some_iff.mp kept
    cases equal
    exact inductionHypothesis grouped
  | binary operator left right leftHypothesis rightHypothesis =>
    rw [grouped, Option.bind_fun_some] at kept
    cases comparison : operator.isComparison with
    | false =>
      rw [comparison, if_neg Bool.false_ne_true] at kept
      obtain ⟨first, keptLeft, kept⟩ := Option.bind_eq_some_iff.mp kept
      obtain ⟨second, keptRight, equal⟩ := Option.bind_eq_some_iff.mp kept
      cases equal
      simp [keepsOperands, comparison, leftHypothesis keptLeft, rightHypothesis keptRight]
    | true =>
      rw [comparison, if_pos rfl] at kept
      cases negated : left.isNegation with
      | true =>
        -- a negation in front of the comparison would have become the whole condition
        cases left with
        | negation operand =>
          obtain ⟨read, -, equal⟩ := Option.map_eq_some_iff.mp kept
          cases equal
        | _ => cases negated
      | false =>
        rw [grouped_eq_bind left negated] at kept
        obtain ⟨first, keptLeft, kept⟩ := Option.bind_eq_some_iff.mp kept
        split at kept
        case isTrue => cases kept
        case isFalse positive =>
          obtain ⟨second, keptRight, equal⟩ := Option.map_eq_some_iff.mp kept
          cases equal
          simp [keepsOperands, negated, positive, leftHypothesis keptLeft,
            rightHypothesis keptRight]

/-- A condition is read as it was written exactly if no comparison in it has a negation for an
operand. -/
theorem grouped_eq_some_iff (condition : Condition) :
    condition.grouped some = some condition ↔ condition.keepsOperands = true :=
  ⟨keepsOperands_of_grouped condition, grouped_of_keepsOperands condition⟩

end Condition

/-! ### Reading one level -/

/-- Whether a token ends an operand of a conjunction. -/
def Token.isJoint : Token → Bool
  | closing | keyword .and | keyword .or => true
  | _ => false

/-- Behind a condition that is whole, no comparison is read. -/
theorem readComparisonFrom_joint (readOperand : ConditionReader) (left : Condition)
    (rest : List Token) (joint : ∀ token ∈ rest.head?, token.isJoint = true) :
    readComparisonFrom readOperand left rest = some (left, rest) := by
  unfold readComparisonFrom
  split
  case h_4 => rfl
  all_goals exact absurd (joint _ rfl) Bool.false_ne_true

theorem readJoinedFrom_end (word : Keyword) (operator : BinaryOperator)
    (readOperand : ConditionReader) (bound : Nat) (left : Condition) (rest : List Token)
    (ends : ∀ token ∈ rest.head?, token ≠ .keyword word) :
    readJoinedFrom word operator readOperand bound left rest = some (left, rest) := by
  unfold readJoinedFrom
  split
  · rw [if_neg fun equal => ends _ rfl (congrArg _ equal)]
  · rfl

/-- A condition that the word of a level does not stand behind is read by the level as it is read
below it. -/
theorem readJoined_single (word : Keyword) (operator : BinaryOperator)
    (readOperand : ConditionReader) {tokens rest : List Token} {grouped : Option Condition}
    (reads : readOperand tokens = grouped.map fun read => (read, rest))
    (ends : ∀ token ∈ rest.head?, token ≠ .keyword word) :
    readJoined word operator readOperand tokens = grouped.map fun read => (read, rest) := by
  unfold readJoined
  rw [reads]
  cases grouped with
  | none => rfl
  | some condition => exact readJoinedFrom_end word operator readOperand _ condition rest ends

/-- The tokens of further conditions of a level, each behind its word. -/
def joinedTokens (word : Keyword) (conditions : List Condition) : List Token :=
  conditions.flatMap fun condition => .keyword word :: condition.tokens

/-- Behind a condition of a level stands the word of the level, or what stands behind all of
them. -/
theorem ends_joinedTokens (word : Keyword) (ends : Token → Bool)
    (wordEnds : ends (.keyword word) = true) (conditions : List Condition) (rest : List Token)
    (restEnds : ∀ token ∈ rest.head?, ends token = true) :
    ∀ token ∈ (joinedTokens word conditions ++ rest).head?, ends token = true := by
  cases conditions with
  | nil => exact restEnds
  | cons next others =>
    intro token member
    cases member
    exact wordEnds

/-- Further conditions of a level are read one after the other and grouped from the left, as
long as the reader below reads each of them. -/
theorem readJoinedFrom_tokens (word : Keyword) (operator : BinaryOperator)
    (readOperand : ConditionReader) (ends : Token → Bool) (wordEnds : ends (.keyword word) = true)
    (conditions : List Condition) (rest : List Token)
    (restEnds : ∀ token ∈ rest.head?, ends token = true ∧ token ≠ .keyword word)
    (reads : ∀ condition ∈ conditions, ∀ behind : List Token,
      (∀ token ∈ behind.head?, ends token = true) →
        readOperand (condition.tokens ++ behind) =
          (condition.grouped some).map fun read => (read, behind))
    (bound : Nat) (enough : conditions.length ≤ bound) (left : Condition) :
    readJoinedFrom word operator readOperand bound left (joinedTokens word conditions ++ rest) =
      (conditions.mapM (Condition.grouped · some)).map fun further =>
        (further.foldl (.binary operator) left, rest) := by
  induction conditions generalizing bound left with
  | nil =>
    exact readJoinedFrom_end word operator readOperand bound left rest fun token member =>
      (restEnds token member).2
  | cons condition conditions inductionHypothesis =>
    obtain ⟨bound, rfl⟩ : ∃ less, bound = less + 1 := ⟨bound - 1, by
      rw [List.length_cons] at enough
      omega⟩
    have behindEnds := ends_joinedTokens word ends wordEnds conditions rest
      fun token member => (restEnds token member).1
    rw [joinedTokens, List.flatMap_cons, ← joinedTokens, List.append_assoc, List.cons_append,
      readJoinedFrom, if_pos rfl, reads condition List.mem_cons_self _ behindEnds, List.mapM_cons]
    cases condition.grouped some with
    | none => rfl
    | some read =>
      show readJoinedFrom word operator readOperand bound (.binary operator left read) _ = _
      rw [inductionHypothesis
        (fun other member => reads other (List.mem_cons_of_mem _ member)) bound
        (Nat.le_of_succ_le_succ enough)]
      show _ = Option.map _ ((conditions.mapM (Condition.grouped · some)).bind _)
      cases conditions.mapM (Condition.grouped · some) <;> rfl

theorem length_le_length_joinedTokens (word : Keyword) (conditions : List Condition) :
    conditions.length ≤ (joinedTokens word conditions).length := by
  induction conditions with
  | nil => exact Nat.le_refl _
  | cons condition conditions inductionHypothesis =>
    rw [joinedTokens, List.flatMap_cons, ← joinedTokens, List.length_append, List.length_cons,
      List.length_cons]
    omega

/-- Conditions of a level are read one after the other and grouped from the left. -/
theorem readJoined_tokens (word : Keyword) (operator : BinaryOperator)
    (readOperand : ConditionReader) (ends : Token → Bool) (wordEnds : ends (.keyword word) = true)
    (first : Condition) (conditions : List Condition) (rest : List Token)
    (restEnds : ∀ token ∈ rest.head?, ends token = true ∧ token ≠ .keyword word)
    (reads : ∀ condition ∈ first :: conditions, ∀ behind : List Token,
      (∀ token ∈ behind.head?, ends token = true) →
        readOperand (condition.tokens ++ behind) =
          (condition.grouped some).map fun read => (read, behind)) :
    readJoined word operator readOperand
        (first.tokens ++ (joinedTokens word conditions ++ rest)) =
      (first.grouped some).bind fun start =>
        (conditions.mapM (Condition.grouped · some)).map fun further =>
          (further.foldl (.binary operator) start, rest) := by
  have behindEnds := ends_joinedTokens word ends wordEnds conditions rest
    fun token member => (restEnds token member).1
  have enough : conditions.length ≤ (joinedTokens word conditions ++ rest).length := by
    rw [List.length_append]
    exact Nat.le_add_right_of_le (length_le_length_joinedTokens word conditions)
  unfold readJoined
  rw [reads first List.mem_cons_self _ behindEnds]
  cases first.grouped some with
  | none => rfl
  | some start =>
    exact readJoinedFrom_tokens word operator readOperand ends wordEnds conditions rest restEnds
      (fun condition member => reads condition (List.mem_cons_of_mem _ member)) _ enough start

/-- Two conditions with the word of a level between them. -/
theorem readJoined_pair (word : Keyword) (operator : BinaryOperator)
    (readOperand : ConditionReader) (ends : Token → Bool) (wordEnds : ends (.keyword word) = true)
    (left right : Condition) (rest : List Token)
    (restEnds : ∀ token ∈ rest.head?, ends token = true ∧ token ≠ .keyword word)
    (reads : ∀ condition ∈ [left, right], ∀ behind : List Token,
      (∀ token ∈ behind.head?, ends token = true) →
        readOperand (condition.tokens ++ behind) =
          (condition.grouped some).map fun read => (read, behind)) :
    readJoined word operator readOperand
        (left.tokens ++ ([.keyword word] ++ (right.tokens ++ rest))) =
      (do
        let first ← left.grouped some
        let second ← right.grouped some
        some (Condition.binary operator first second)).map fun read => (read, rest) := by
  have tokens : joinedTokens word [right] ++ rest =
      [.keyword word] ++ (right.tokens ++ rest) := by
    simp [joinedTokens]
  rw [← tokens, readJoined_tokens word operator readOperand ends wordEnds left [right] rest restEnds
    reads, List.mapM_cons, List.mapM_nil]
  cases left.grouped some with
  | none => rfl
  | some first => cases right.grouped some <;> rfl

/-! ### Reading all levels -/

/-- Whether the operands of a nesting depth are read as they are grouped. -/
def ReadsOperands (depth : Nat) : Prop :=
  ∀ condition : Condition, condition.isNegation = false → condition.depth ≤ depth →
    ∀ rest, readOperand (readCondition depth) (condition.tokens ++ rest) =
      (condition.grouped some).map fun read => (read, rest)

theorem readComparison_tokens {depth : Nat} (operands : ReadsOperands depth)
    (condition : Condition) (positive : condition.isNegation = false)
    (shallow : condition.depth ≤ depth) (behind : Condition → Option Condition)
    (rest after : List Token)
    (continues : ∀ left,
      readComparisonFrom (readOperand (readCondition depth)) left rest =
        (behind left).map fun read => (read, after)) :
    readComparison (readOperand (readCondition depth)) (condition.tokens ++ rest) =
      (condition.grouped behind).map fun read => (read, after) := by
  unfold readComparison
  rw [operands condition positive shallow rest,
    Condition.grouped_eq_bind condition positive behind]
  cases condition.grouped some with
  | none => rfl
  | some left => exact continues left

/-- A condition with its negations is read as it is grouped with what is read behind its
operand. -/
theorem readFactor_tokens {depth : Nat} (operands : ReadsOperands depth) (condition : Condition)
    (shallow : condition.depth ≤ depth) (behind : Condition → Option Condition)
    (rest after : List Token)
    (continues : ∀ left,
      readComparisonFrom (readOperand (readCondition depth)) left rest =
        (behind left).map fun read => (read, after)) :
    readFactor (readCondition depth) (condition.tokens ++ rest) =
      (condition.grouped behind).map fun read => (read, after) := by
  induction condition with
  | negation operand inductionHypothesis =>
    show (readFactor (readCondition depth) (operand.tokens ++ rest)).map _ = _
    rw [inductionHypothesis shallow, Condition.grouped, Option.map_map, Option.map_map]
    rfl
  | leaf text => exact readComparison_tokens operands _ rfl shallow behind rest after continues
  | null => exact readComparison_tokens operands _ rfl shallow behind rest after continues
  | binary operator left right =>
    exact readComparison_tokens operands _ rfl shallow behind rest after continues

/-- A whole condition in front of a joint is read as it is grouped. -/
theorem readFactor_joint {depth : Nat} (operands : ReadsOperands depth) (condition : Condition)
    (shallow : condition.depth ≤ depth) (rest : List Token)
    (joint : ∀ token ∈ rest.head?, token.isJoint = true) :
    readFactor (readCondition depth) (condition.tokens ++ rest) =
      (condition.grouped some).map fun read => (read, rest) :=
  readFactor_tokens operands condition shallow some rest rest fun left =>
    readComparisonFrom_joint _ left rest joint

theorem readComparisonFrom_tokens {depth : Nat} (operands : ReadsOperands depth)
    (operator : BinaryOperator) (comparison : operator.isComparison = true)
    (left right : Condition) (shallow : right.depth ≤ depth) (rest : List Token) :
    readComparisonFrom (readOperand (readCondition depth)) left
        (operator.tokens right.isNull ++ (right.tokens ++ rest)) =
      (if right.isNegation then none
        else (right.grouped some).map (.binary operator left)).map fun read => (read, rest) := by
  have signed (content : right.isNull = false) :
      readComparisonFrom (readOperand (readCondition depth)) left
          (operator.tokens right.isNull ++ (right.tokens ++ rest)) =
        (readOperand (readCondition depth) (right.tokens ++ rest)).map fun read =>
          (.binary operator left read.1, read.2) := by
    rw [content]
    cases operator <;> first | rfl | cases comparison
  cases right with
  | null => cases operator <;> first | rfl | cases comparison
  | negation operand =>
    rw [signed rfl]
    rfl
  | leaf text =>
    rw [signed rfl]
    rfl
  | binary inner first second =>
    rw [signed rfl, operands _ rfl shallow rest]
    cases (Condition.binary inner first second).grouped some <;> rfl

/-- A factor that nothing is joined to is a whole condition. -/
theorem readCondition_factor {depth : Nat} {tokens rest : List Token} {grouped : Option Condition}
    (reads : readFactor (readCondition depth) tokens = grouped.map fun read => (read, rest))
    (ends : ∀ token ∈ rest.head?, token = .closing) :
    readCondition (depth + 1) tokens = grouped.map fun read => (read, rest) := by
  have noWord (word : Keyword) : ∀ token ∈ rest.head?, token ≠ .keyword word := by
    intro token member equal
    rw [ends token member] at equal
    cases equal
  exact readJoined_single .or .or _ (readJoined_single .and .and _ reads (noWord .and))
    (noWord .or)

/-- Inside of parentheses an operator and its operands are read as they are grouped. -/
theorem readCondition_binary {depth : Nat} (operands : ReadsOperands depth)
    (operator : BinaryOperator) (left right : Condition) (leftShallow : left.depth ≤ depth)
    (rightShallow : right.depth ≤ depth) (rest : List Token) :
    readCondition (depth + 1)
        (left.tokens ++ (operator.tokens right.isNull ++ (right.tokens ++ .closing :: rest))) =
      ((Condition.binary operator left right).grouped some).map fun read =>
        (read, .closing :: rest) := by
  rw [Condition.grouped, Option.bind_fun_some]
  have both : ∀ condition ∈ [left, right], condition.depth ≤ depth := by
    simp [leftShallow, rightShallow]
  cases comparison : operator.isComparison with
  | true =>
    have factor := readFactor_tokens operands left leftShallow _ _ (.closing :: rest)
      fun first => readComparisonFrom_tokens operands operator comparison first right rightShallow
        (.closing :: rest)
    rw [if_pos rfl]
    exact readCondition_factor factor (by simp)
  | false =>
    rw [if_neg Bool.false_ne_true]
    have factors : ∀ condition ∈ [left, right], ∀ behind : List Token,
        (∀ token ∈ behind.head?, token.isJoint = true) →
          readFactor (readCondition depth) (condition.tokens ++ behind) =
            (condition.grouped some).map fun read => (read, behind) :=
      fun condition member => readFactor_joint operands condition (both condition member)
    cases operator with
    | and =>
      have joined := readJoined_pair .and .and (readFactor (readCondition depth)) Token.isJoint rfl
        left right (.closing :: rest) (by simp [Token.isJoint]) factors
      exact readJoined_single .or .or _ joined (by simp)
    | or =>
      refine readJoined_pair .or .or _ (fun token => token.isJoint && token != .keyword .and) rfl
        left right (.closing :: rest) (by simp [Token.isJoint]) ?_
      intro condition member behind ends
      simp only [Bool.and_eq_true, bne_iff_ne] at ends
      have factor := factors condition member behind fun token first => (ends token first).1
      exact readJoined_single .and .and _ factor fun token first => (ends token first).2
    | _ => cases comparison

theorem readsOperands (depth : Nat) : ReadsOperands depth := by
  induction depth with
  | zero =>
    intro condition positive shallow rest
    cases condition with
    | leaf text => rfl
    | null => rfl
    | negation operand => cases positive
    | binary operator left right => exact absurd shallow (Nat.not_succ_le_zero _)
  | succ depth inductionHypothesis =>
    intro condition positive shallow rest
    cases condition with
    | leaf text => rfl
    | null => rfl
    | negation operand => cases positive
    | binary operator left right =>
      have shallow : max left.depth right.depth ≤ depth := Nat.le_of_succ_le_succ shallow
      have inside := readCondition_binary inductionHypothesis operator left right
        (Nat.le_trans (Nat.le_max_left _ _) shallow) (Nat.le_trans (Nat.le_max_right _ _) shallow)
        rest
      rw [Condition.tokens, List.cons_append, List.append_assoc, List.append_assoc,
        List.append_assoc, List.singleton_append, readOperand, inside]
      cases (Condition.binary operator left right).grouped some <;> rfl

/-! ### Conjunctions -/

/-- The conjunction of conditions, grouped from the left. -/
def Condition.conjunction (first : Condition) (further : List Condition) : Condition :=
  further.foldl (.binary .and) first

/-- What the conjunction of written conditions is read as. -/
def Condition.groupedConjunction (first : Condition) (further : List Condition) :
    Option Condition :=
  (first.grouped some).bind fun start =>
    (further.mapM (Condition.grouped · some)).map fun rest => Condition.conjunction start rest

/-- Conditions with the word for conjunctions between them are read one by one. -/
theorem readCondition_conjunction {depth : Nat} (first : Condition) (further : List Condition)
    (shallow : ∀ condition ∈ first :: further, condition.depth ≤ depth) :
    readCondition (depth + 1) (first.tokens ++ joinedTokens .and further) =
      (Condition.groupedConjunction first further).map fun read => (read, []) := by
  have joined := readJoined_tokens .and .and (readFactor (readCondition depth)) Token.isJoint rfl
    first further [] (by simp)
    fun condition member =>
      readFactor_joint (readsOperands depth) condition (shallow condition member)
  rw [List.append_nil] at joined
  have whole : readJoined .and .and (readFactor (readCondition depth))
      (first.tokens ++ joinedTokens .and further) =
        (Condition.groupedConjunction first further).map fun read => (read, []) := by
    rw [joined, Condition.groupedConjunction]
    cases first.grouped some with
    | none => rfl
    | some start => cases further.mapM (Condition.grouped · some) <;> rfl
  exact readJoined_single .or .or _ whole fun token member => nomatch member

theorem conjunction_injective {first other : Condition} {further others : List Condition}
    (size : further.length = others.length)
    (equal : Condition.conjunction first further = Condition.conjunction other others) :
    first = other ∧ further = others := by
  induction further generalizing first other others with
  | nil =>
    cases others with
    | nil => exact ⟨equal, rfl⟩
    | cons next others => cases size
  | cons condition further inductionHypothesis =>
    cases others with
    | nil => cases size
    | cons next others =>
      obtain ⟨start, rest⟩ := inductionHypothesis (Nat.succ.inj size) equal
      cases start
      exact ⟨rfl, congrArg _ rest⟩

/-- Conditions all come back as they were written exactly if each of them does. -/
theorem mapM_grouped_eq_some_iff (conditions : List Condition) :
    conditions.mapM (Condition.grouped · some) = some conditions ↔
      ∀ condition ∈ conditions, condition.keepsOperands = true := by
  rw [mapM_eq_some_iff, List.forall₂_same]
  exact forall₂_congr fun condition _ => condition.grouped_eq_some_iff

/-- A written conjunction is read as it was written exactly if none of its conditions has a
comparison with a negation for an operand. -/
theorem groupedConjunction_eq_some_iff (first : Condition) (further : List Condition) :
    Condition.groupedConjunction first further = some (Condition.conjunction first further) ↔
      ∀ condition ∈ first :: further, condition.keepsOperands = true := by
  rw [List.forall_mem_cons, ← Condition.grouped_eq_some_iff, ← mapM_grouped_eq_some_iff]
  constructor
  · intro kept
    obtain ⟨start, groupedFirst, kept⟩ := Option.bind_eq_some_iff.mp kept
    obtain ⟨rest, groupedFurther, equal⟩ := Option.map_eq_some_iff.mp kept
    have size : further.length = rest.length :=
      ((mapM_eq_some_iff _ _ _).mp groupedFurther).length_eq
    obtain ⟨rfl, rfl⟩ := conjunction_injective size.symm equal
    exact ⟨groupedFirst, groupedFurther⟩
  · rintro ⟨groupedFirst, groupedFurther⟩
    rw [Condition.groupedConjunction, groupedFirst, groupedFurther]
    rfl

/-! ### The condition of a statement -/

theorem isInCondition_of_mem_tokens (condition : Condition) :
    ∀ token ∈ condition.tokens, token.isInCondition = true := by
  induction condition with
  | leaf text => simp [Condition.tokens, Token.isInCondition]
  | null => simp [Condition.tokens, Token.isInCondition]
  | negation operand inductionHypothesis =>
    rw [Condition.tokens, List.forall_mem_cons]
    exact ⟨rfl, inductionHypothesis⟩
  | binary operator left right leftHypothesis rightHypothesis =>
    rw [Condition.tokens, List.forall_mem_cons, List.forall_mem_append, List.forall_mem_append,
      List.forall_mem_append]
    refine ⟨rfl, leftHypothesis, ?_, rightHypothesis, by simp [Token.isInCondition]⟩
    cases operator <;> cases right.isNull <;> decide

theorem isInCondition_of_mem_joinedTokens (further : List Condition) :
    ∀ token ∈ joinedTokens .and further, token.isInCondition = true := by
  intro token member
  obtain ⟨condition, -, inside⟩ := List.mem_flatMap.mp member
  rcases List.mem_cons.mp inside with rfl | inside
  · rfl
  · exact isInCondition_of_mem_tokens condition token inside

theorem depth_le_length_tokens (condition : Condition) :
    condition.depth ≤ condition.tokens.length := by
  induction condition with
  | leaf text => exact Nat.zero_le _
  | null => exact Nat.zero_le _
  | negation operand inductionHypothesis => exact Nat.le_succ_of_le inductionHypothesis
  | binary operator left right leftHypothesis rightHypothesis =>
    rw [Condition.depth, Condition.tokens]
    simp only [List.length_cons, List.length_append]
    omega

theorem length_tokens_le_of_mem {condition : Condition} {word : Keyword}
    {conditions : List Condition} (member : condition ∈ conditions) :
    condition.tokens.length ≤ (joinedTokens word conditions).length := by
  induction conditions with
  | nil => cases member
  | cons first rest inductionHypothesis =>
    rw [joinedTokens, List.flatMap_cons, ← joinedTokens, List.length_append, List.length_cons]
    rcases List.mem_cons.mp member with rfl | member
    · omega
    · have := inductionHypothesis member
      omega

/-- A text whose tokens begin with those of a conjunction, up to the next clause, is read as the
conjunction is grouped. -/
theorem readWhere_of_tokens (dialect : Dialect) (text : String) (first : Condition)
    (further : List Condition) (behind : List Token)
    (cut : dialect.tokens text.toList = first.tokens ++ (joinedTokens .and further ++ behind))
    (clause : ∀ token ∈ behind.head?, token.isInCondition = false) :
    dialect.readWhere text = Condition.groupedConjunction first further := by
  have inside : ∀ token ∈ first.tokens ++ joinedTokens .and further,
      token.isInCondition = true := by
    rw [List.forall_mem_append]
    exact ⟨isInCondition_of_mem_tokens first, isInCondition_of_mem_joinedTokens further⟩
  have taken : (dialect.tokens text.toList).takeWhile Token.isInCondition =
      first.tokens ++ joinedTokens .and further := by
    rw [cut, ← List.append_assoc, List.takeWhile_append_of_pos inside]
    cases behind with
    | nil => exact List.append_nil _
    | cons token rest =>
      rw [List.takeWhile_cons_of_neg (by rw [clause token rfl]; exact Bool.false_ne_true),
        List.append_nil]
  unfold Dialect.readWhere
  rw [taken]
  dsimp only
  rw [readCondition_conjunction]
  · cases Condition.groupedConjunction first further <;> rfl
  · intro condition member
    refine Nat.le_trans (depth_le_length_tokens condition) ?_
    rw [List.length_append]
    rcases List.mem_cons.mp member with rfl | member
    · exact Nat.le_add_right _ _
    · exact Nat.le_add_left_of_le (length_tokens_le_of_mem member)

end SqlRecords
