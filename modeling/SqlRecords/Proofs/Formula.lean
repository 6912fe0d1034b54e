/-
This file says which operator trees are formulas, and which formula a tree is.

A node is exposed when the way to it from the root leads through operators and parentheses only;
operands end the way, and nothing in their tokens matters. A tree is a formula exactly if all
exposed operators are among those of predicates, and of several others the first one is named, where
a node comes before the nodes below it and the left side before the right one. The formula has the
operators of the tree in their places, and so has every expression that it stands for.

One induction over trees shows both halves: what is built, and where the building stops.
-/

import SqlRecords.Proofs.Results
import SqlRecords.Samples

namespace SqlRecords

open Source (BinarySign UnarySign OperatorTree Token)

/-! ### Exposed nodes -/

/-- The exposed nodes of a tree: each before the nodes below it, and those on the left before those
on the right. -/
def Source.OperatorTree.exposed : OperatorTree → List OperatorTree
  | .binary sign left right => .binary sign left right :: (left.exposed ++ right.exposed)
  | .unary sign inner => .unary sign inner :: inner.exposed
  | .enclosed inner => .enclosed inner :: inner.exposed
  | .absent => [.absent]
  | .operand tokens => [.operand tokens]

/-- The signs of predicates between two operands, and the operators they stand for. -/
def predicateSigns : List (BinarySign × BinaryOperator) :=
  [(.and, .and), (.or, .or), (.equal, .equal), (.notEqual, .notEqual), (.less, .less),
    (.lessEqual, .lessEqual), (.greater, .greater), (.greaterEqual, .greaterEqual)]

/-- How the operator of a node is written, if predicates do not have it. -/
def Source.OperatorTree.foreignSign? : OperatorTree → Option String
  | .binary sign _ _ => if sign ∈ predicateSigns.map Prod.fst then none else some sign.text
  | .unary sign _ => if sign = .not then none else some sign.text
  | .enclosed _ | .absent | .operand _ => none

/-- The first operator among the exposed ones that predicates do not have. -/
def Source.OperatorTree.firstForeignSign? (tree : OperatorTree) : Option String :=
  tree.exposed.findSome? foreignSign?

/-! ### What a tree is built into -/

/-- What can be built from the operators of predicates: formulas, or expressions when operands have
a meaning. -/
structure Builder (Result : Type) where
  binary : BinaryOperator → Result → Result → Result
  negation : Result → Result
  null : Result
  operand : String → Option Result

/-- Whether a result has the operators of a tree in their places. Parentheses leave no trace, and of
an operand nothing but its text counts. -/
inductive Builder.Builds {Result : Type} (builder : Builder Result) :
    OperatorTree → Result → Prop
  | binary {sign : BinarySign} {operator : BinaryOperator} {left right : OperatorTree}
    {first second : Result} (known : (sign, operator) ∈ predicateSigns)
    (leftBuilds : builder.Builds left first) (rightBuilds : builder.Builds right second) :
    builder.Builds (.binary sign left right) (builder.binary operator first second)
  | negation {inner : OperatorTree} {result : Result} (innerBuilds : builder.Builds inner result) :
    builder.Builds (.unary .not inner) (builder.negation result)
  | enclosed {inner : OperatorTree} {result : Result} (innerBuilds : builder.Builds inner result) :
    builder.Builds (.enclosed inner) result
  | absent : builder.Builds .absent builder.null
  | operand {tokens : List Token} {result : Result}
    (meant : builder.operand (Token.textOf tokens) = some result) :
    builder.Builds (.operand tokens) result

/-- Builds formulas; an operand is kept. -/
def Formula.builder : Builder Formula where
  binary := .binary
  negation := .negation
  null := .null
  operand text := some (.operand text)

/-- Builds expressions, with a meaning for operands. -/
def Expression.builder (meaning : String → Option Expression) : Builder Expression where
  binary := .binary
  negation := .negation
  null := .literal .null
  operand := meaning

/-! ### Trees and formulas -/

theorem operator?_eq_some_iff (sign : BinarySign) (operator : BinaryOperator) :
    Formula.operator? sign = some operator ↔ (sign, operator) ∈ predicateSigns := by
  cases sign <;> cases operator <;> decide

theorem operator?_eq_none_iff (sign : BinarySign) :
    Formula.operator? sign = none ↔ sign ∉ predicateSigns.map Prod.fst := by
  cases sign <;> decide

section Nodes

variable (sign : BinarySign) (mark : UnarySign) (left right inner : OperatorTree)

theorem firstForeignSign?_binary :
    (OperatorTree.binary sign left right).firstForeignSign? =
      ((OperatorTree.binary sign left right).foreignSign?.or
        (left.firstForeignSign?.or right.firstForeignSign?)) := by
  unfold OperatorTree.firstForeignSign?
  rw [OperatorTree.exposed, List.findSome?_cons, List.findSome?_append]
  cases (OperatorTree.binary sign left right).foreignSign? <;> rfl

theorem firstForeignSign?_unary :
    (OperatorTree.unary mark inner).firstForeignSign? =
      (OperatorTree.unary mark inner).foreignSign?.or inner.firstForeignSign? := by
  unfold OperatorTree.firstForeignSign?
  rw [OperatorTree.exposed, List.findSome?_cons]
  cases (OperatorTree.unary mark inner).foreignSign? <;> rfl

theorem firstForeignSign?_enclosed :
    (OperatorTree.enclosed inner).firstForeignSign? = inner.firstForeignSign? := rfl

end Nodes

/-- A tree is built into a formula, or its first foreign operator is named. -/
theorem ofTree_builds_or_names (tree : OperatorTree) :
    (∃ formula, Formula.ofTree tree = .ok formula ∧ Formula.builder.Builds tree formula ∧
      tree.firstForeignSign? = none) ∨
    ∃ sign, Formula.ofTree tree = .error (.unsupported sign) ∧
      tree.firstForeignSign? = some sign := by
  induction tree with
  | binary sign left right leftHypothesis rightHypothesis =>
    rw [firstForeignSign?_binary, Formula.ofTree, OperatorTree.foreignSign?]
    cases known : Formula.operator? sign with
    | none =>
      rw [if_neg ((operator?_eq_none_iff sign).mp known)]
      exact .inr ⟨sign.text, rfl, rfl⟩
    | some operator =>
      have listed := (operator?_eq_some_iff sign operator).mp known
      rw [if_pos (List.mem_map_of_mem listed)]
      -- the right side is looked at only if the left one has no foreign operator
      rcases leftHypothesis with ⟨first, leftBuilt, leftBuilds, leftNone⟩ | ⟨foreign, failed, named⟩
      · rw [leftBuilt, leftNone]
        rcases rightHypothesis with ⟨second, built, builds, none⟩ | ⟨foreign, failed, named⟩
        · rw [built, none]
          exact .inl ⟨_, rfl, .binary listed leftBuilds builds, rfl⟩
        · rw [failed, named]
          exact .inr ⟨foreign, rfl, rfl⟩
      · rw [failed, named]
        exact .inr ⟨foreign, rfl, rfl⟩
  | unary mark inner inductionHypothesis =>
    rw [firstForeignSign?_unary]
    cases mark with
    | not =>
      rw [Formula.ofTree]
      rcases inductionHypothesis with ⟨formula, built, builds, none⟩ | ⟨foreign, failed, named⟩
      · rw [built, none]
        exact .inl ⟨_, rfl, .negation builds, rfl⟩
      · rw [failed, named]
        exact .inr ⟨foreign, rfl, rfl⟩
    | negate => exact .inr ⟨_, rfl, rfl⟩
    | follow => exact .inr ⟨_, rfl, rfl⟩
  | enclosed inner inductionHypothesis =>
    rw [firstForeignSign?_enclosed, Formula.ofTree]
    rcases inductionHypothesis with ⟨formula, built, builds, none⟩ | ⟨foreign, failed, named⟩
    · exact .inl ⟨formula, built, .enclosed builds, none⟩
    · exact .inr ⟨foreign, failed, named⟩
  | absent => exact .inl ⟨_, rfl, .absent, rfl⟩
  | operand tokens => exact .inl ⟨_, rfl, .operand rfl, rfl⟩

/-- What is built from a tree is its formula. -/
theorem ofTree_of_builds {tree : OperatorTree} {formula : Formula}
    (builds : Formula.builder.Builds tree formula) : Formula.ofTree tree = .ok formula := by
  induction builds with
  | binary known _ _ leftHypothesis rightHypothesis =>
    rw [Formula.ofTree, (operator?_eq_some_iff _ _).mpr known, leftHypothesis, rightHypothesis]
    rfl
  | negation _ inductionHypothesis =>
    rw [Formula.ofTree, inductionHypothesis]
    rfl
  | enclosed _ inductionHypothesis => exact inductionHypothesis
  | absent => rfl
  | operand meant =>
    cases meant
    rfl

/-! ### Formulas and expressions -/

/-- The expression of a formula is built from the tree like the formula itself. -/
theorem toExpression?_eq_some_iff {tree : OperatorTree} {formula : Formula}
    (builds : Formula.builder.Builds tree formula) (meaning : String → Option Expression)
    (expression : Expression) :
    formula.toExpression? meaning = some expression ↔
      (Expression.builder meaning).Builds tree expression := by
  induction builds generalizing expression with
  | @binary sign operator left right first second known _ _ leftHypothesis rightHypothesis =>
    show (Formula.binary operator first second).toExpression? meaning = some expression ↔ _
    rw [Formula.toExpression?]
    constructor
    · intro built
      obtain ⟨leftExpression, leftBuilt, built⟩ := Option.bind_eq_some_iff.mp built
      obtain ⟨rightExpression, rightBuilt, equal⟩ := Option.bind_eq_some_iff.mp built
      cases equal
      exact .binary known ((leftHypothesis _).mp leftBuilt) ((rightHypothesis _).mp rightBuilt)
    · intro built
      cases built with
      | binary otherKnown leftBuilds rightBuilds =>
        rw [← operator?_eq_some_iff] at known otherKnown
        obtain rfl := Option.some.inj (known.symm.trans otherKnown)
        rw [(leftHypothesis _).mpr leftBuilds, (rightHypothesis _).mpr rightBuilds]
        rfl
  | @negation inner result _ inductionHypothesis =>
    show (Formula.negation result).toExpression? meaning = some expression ↔ _
    rw [Formula.toExpression?]
    constructor
    · intro built
      obtain ⟨innerExpression, innerBuilt, equal⟩ := Option.bind_eq_some_iff.mp built
      cases equal
      exact .negation ((inductionHypothesis _).mp innerBuilt)
    · intro built
      cases built with
      | negation innerBuilds =>
        rw [(inductionHypothesis _).mpr innerBuilds]
        rfl
  | enclosed _ inductionHypothesis =>
    rw [inductionHypothesis]
    constructor
    · exact .enclosed
    · intro built
      cases built with
      | enclosed innerBuilds => exact innerBuilds
  | absent =>
    constructor
    · intro built
      cases built
      exact .absent
    · intro built
      cases built
      rfl
  | operand meant =>
    cases meant
    constructor
    · exact fun meant => .operand meant
    · intro built
      cases built with
      | operand meant => exact meant

/-! ### Formulas of trees -/

/-- A tree is a formula exactly if predicates have all its exposed operators. The formula has the
operators of the tree in their places, and so has what it means, whatever operands mean. Otherwise
the first of the other operators is named, and the wording has that operator in it. -/
theorem ofTree_translates_or_names_first (tree : OperatorTree) :
    ((∃ formula, Formula.ofTree tree = .ok formula) ↔
      ∀ node ∈ tree.exposed, node.foreignSign? = none) ∧
    (∀ formula, Formula.ofTree tree = .ok formula ↔ Formula.builder.Builds tree formula) ∧
    (∀ formula meaning expression, Formula.ofTree tree = .ok formula →
      (formula.toExpression? meaning = some expression ↔
        (Expression.builder meaning).Builds tree expression)) ∧
    ∀ error, Formula.ofTree tree = .error error ↔
      ∃ before node after sign, tree.exposed = before ++ node :: after ∧
        (∀ earlier ∈ before, earlier.foreignSign? = none) ∧ node.foreignSign? = some sign ∧
        error = .unsupported sign ∧
        error.message = "Operator `" ++ sign ++ "` is not supported in a query expression" := by
  have translated (formula : Formula) :
      Formula.ofTree tree = .ok formula ↔ Formula.builder.Builds tree formula := by
    refine ⟨fun equal => ?_, ofTree_of_builds⟩
    rcases ofTree_builds_or_names tree with ⟨built, other, builds, -⟩ | ⟨_, failed, -⟩
    · obtain rfl := Except.ok.inj (other.symm.trans equal)
      exact builds
    · rw [failed] at equal
      cases equal
  refine ⟨⟨fun ⟨formula, equal⟩ => ?_, fun all => ?_⟩, translated,
    fun formula meaning expression equal =>
      toExpression?_eq_some_iff ((translated formula).mp equal) meaning expression,
    fun error => ⟨fun equal => ?_, ?_⟩⟩
  · rcases ofTree_builds_or_names tree with ⟨_, -, -, none⟩ | ⟨_, failed, -⟩
    · exact List.findSome?_eq_none_iff.mp none
    · rw [failed] at equal
      cases equal
  · rcases ofTree_builds_or_names tree with ⟨formula, equal, -, -⟩ | ⟨sign, -, named⟩
    · exact ⟨formula, equal⟩
    · have none : tree.firstForeignSign? = none := List.findSome?_eq_none_iff.mpr all
      rw [named] at none
      cases none
  · rcases ofTree_builds_or_names tree with ⟨_, built, -, -⟩ | ⟨sign, failed, named⟩
    · rw [equal] at built
      cases built
    · rw [failed] at equal
      cases equal
      obtain ⟨before, node, after, split, wrong, earlier⟩ := List.findSome?_eq_some_iff.mp named
      exact ⟨before, node, after, sign, split, earlier, wrong, rfl, rfl⟩
  · rintro ⟨before, node, after, sign, split, earlier, wrong, rfl, -⟩
    have named : tree.firstForeignSign? = some sign :=
      List.findSome?_eq_some_iff.mpr ⟨before, node, after, split, wrong, earlier⟩
    rcases ofTree_builds_or_names tree with ⟨_, -, -, none⟩ | ⟨other, failed, otherNamed⟩
    · rw [named] at none
      cases none
    · obtain rfl := Option.some.inj (named.symm.trans otherNamed)
      exact failed

-- The sum is met before the negative number below it, and the product in an operand not at all.
example :
    Formula.ofTree (.binary .and (.operand [.word "a", .sign '*' false, .word "b"])
      (.binary .equal (.binary .add (.operand [.word "c"]) (.unary .negate (.operand [.word "d"])))
        .absent)) = .error (.unsupported "+") := rfl

-- The absence of a value is a null on the left side, too, and the other operand is a field there.
example : ((Formula.ofText Samples.predicates[3]).toOption.bind fun formula =>
    formula.toExpression? fun operand => Samples.fieldOperands.lookup operand) =
    some (.binary .notEqual (.literal .null) (.field "born")) := by
  decide +kernel

end SqlRecords
