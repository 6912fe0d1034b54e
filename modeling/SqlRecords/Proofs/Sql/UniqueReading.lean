/-
This file proves that the text of an expression tells the expression: where names are words that
no literal is, two expressions with one text have one outline, which is their tree with the names
of columns and the texts of literals at its leaves.

The outline is read back from the text. What stands first in a text decides how to go on: a
parenthesis begins an operator between two expressions, a blank begins a negation, and everything
else is a name or a literal, of which a string ends with its quote and a word where its
characters end. No word of the language is ever looked for where a name may stand, so names may
well be such words.
-/

import SqlRecords.Proofs.Sql.WhereCondition

namespace SqlRecords

/-! ### Outlines -/

/-- The tree of an expression with the names and the literals that are written for it. -/
inductive Outline where
  | column (name : String)
  | literal (text : String)
  | negation (operand : Outline)
  | binary (operator : BinaryOperator) (left right : Outline)
deriving DecidableEq, Repr

/-- The outline of an expression in a place. -/
def Dialect.outline (dialect : Dialect) (context : Context) :
    Expression → Except StatementError Outline
  | .binary operator left right => do
    let first ← dialect.outline context left
    let second ← dialect.outline context right
    return .binary operator first second
  | .negation operand => do
    let inner ← dialect.outline context operand
    return .negation inner
  | .field name => return .column (context.columnName name)
  | .literal value => do
    let text ← dialect.literal context.fragment.isKeyAssignment value
    return .literal text

namespace Outline

/-- Whether an outline is that of a null. -/
def isNull : Outline → Bool
  | literal text => text == "NULL"
  | _ => false

/-- The text that an outline is written as. -/
def text : Outline → String
  | column name => name
  | literal text => text
  | negation operand => " NOT " ++ operand.text
  | binary operator left right =>
    "(" ++ (left.text ++ (operator.text right.isNull ++ (right.text ++ ")")))

/-- How high the tree of an outline is. -/
def height : Outline → Nat
  | column _ | literal _ => 1
  | negation operand => operand.height + 1
  | binary _ left right => max left.height right.height + 1

end Outline

/-- A name that is a word: it does not begin with a digit, and is none of the three words that
are literals. -/
structure IsWord (name : String) : Prop where
  characters : name.toList.all isNameCharacter = true
  first : ∃ first ∈ name.toList.head?, first.isDigit = false
  noLiteral : name ∉ ["NULL", "true", "false"]

/-! ### The text of an outline -/

theorem ne_null_of_isLeaf {dialect : Dialect} {text : String} (leaf : dialect.IsLeaf text) :
    text ≠ "NULL" := by
  intro equal
  cases leaf with
  | word _ _ _ plain =>
    rw [equal] at plain
    exact absurd plain (by decide)
  | string content =>
    have characters := congrArg String.toList equal
    rw [toList_stringLiteral] at characters
    cases characters

theorem literal_eq_null_iff {dialect : Dialect} {forKey : Bool} {value : Value} {text : String}
    (written : dialect.literal forKey value = .ok text) :
    text = "NULL" ↔ value.isNull = true := by
  cases null : value.isNull with
  | true =>
    rw [literal_of_isNull dialect forKey value null] at written
    cases written
    exact iff_of_true rfl rfl
  | false =>
    have leaf := isLeaf_literal dialect forKey value text null written
    exact iff_of_false (ne_null_of_isLeaf leaf) Bool.false_ne_true

theorem isNull_outline {dialect : Dialect} {context : Context} {expression : Expression}
    {outline : Outline} (outlined : dialect.outline context expression = .ok outline) :
    outline.isNull = expression.isNullLiteral := by
  cases expression with
  | binary operator left right =>
    obtain ⟨first, -, rest⟩ := (bind_eq_ok_iff _ _ _).mp outlined
    obtain ⟨second, -, equal⟩ := (bind_eq_ok_iff _ _ _).mp rest
    cases equal
    rfl
  | negation operand =>
    obtain ⟨inner, -, equal⟩ := (bind_eq_ok_iff _ _ _).mp outlined
    cases equal
    rfl
  | field name =>
    cases outlined
    rfl
  | literal value =>
    obtain ⟨text, written, equal⟩ := (bind_eq_ok_iff _ _ _).mp outlined
    cases equal
    rw [Outline.isNull, Expression.isNullLiteral, Bool.eq_iff_iff, beq_iff_eq]
    exact literal_eq_null_iff written

/-- An expression is written as its outline says. -/
theorem expressionText_eq_outline (dialect : Dialect) (context : Context)
    (expression : Expression) :
    dialect.expressionText context expression =
      (dialect.outline context expression).map Outline.text := by
  induction expression with
  | binary operator left right leftHypothesis rightHypothesis =>
    rw [expressionText_binary, leftHypothesis, rightHypothesis, Dialect.outline]
    cases dialect.outline context left with
    | error failure => rfl
    | ok first =>
      cases outlined : dialect.outline context right with
      | error failure => rfl
      | ok second =>
        rw [← isNull_outline outlined]
        rfl
  | negation operand inductionHypothesis =>
    rw [expressionText_negation, inductionHypothesis, Dialect.outline]
    cases dialect.outline context operand <;> rfl
  | field name => exact expressionText_field dialect context name
  | literal value =>
    rw [expressionText_literal, Dialect.outline]
    cases dialect.literal context.fragment.isKeyAssignment value <;> rfl

/-! ### Reading an outline -/

/-- The texts of operators. One that begins another one stands behind it. -/
def operatorTexts : List (List Char × BinaryOperator) :=
  [(" AND ".toList, .and), (" OR ".toList, .or), (" = ".toList, .equal),
    (" <> ".toList, .notEqual), (" < ".toList, .less), (" <= ".toList, .lessEqual),
    (" > ".toList, .greater), (" >= ".toList, .greaterEqual), (" IS NOT ".toList, .notEqual),
    (" IS ".toList, .equal)]

/-- Reads the operator that a text begins with. -/
def readOperator (text : List Char) : Option (BinaryOperator × List Char) :=
  operatorTexts.findSome? fun entry =>
    (entry.1.isPrefixOf? text).map fun rest => (entry.2, rest)

/-- Whether a word is a literal: a number, or one of three others. -/
def isLiteralWord (word : List Char) : Bool :=
  (word.head?.any fun first => first.isDigit || first == '-') ||
    ["NULL", "true", "false"].contains (String.ofList word)

/-- The outline of a word. -/
def Outline.ofWord (word : List Char) : Outline :=
  if isLiteralWord word then .literal (String.ofList word) else .column (String.ofList word)

/-- Reads the name or the literal that begins with a character. -/
def Dialect.readLeaf (dialect : Dialect) (first : Char) (rest : List Char) :
    Option (Outline × List Char) :=
  if first = '\'' then
    (dialect.readContent rest).map fun read =>
      (.literal (dialect.stringLiteral (String.ofList read.1)), read.2)
  else if isWordCharacter first then
    some (.ofWord (first :: rest.takeWhile isWordCharacter), rest.dropWhile isWordCharacter)
  else none

/-- Reads the outline that a text begins with, if it is not higher than a bound. -/
def Dialect.readOutline (dialect : Dialect) : Nat → List Char → Option (Outline × List Char)
  | bound + 1, first :: rest =>
    if first = '(' then do
      let (left, rest) ← dialect.readOutline bound rest
      let (operator, rest) ← readOperator rest
      let (right, rest) ← dialect.readOutline bound rest
      let rest ← [')'].isPrefixOf? rest
      some (.binary operator left right, rest)
    else if first = ' ' then do
      let rest ← "NOT ".toList.isPrefixOf? rest
      let (operand, rest) ← dialect.readOutline bound rest
      some (.negation operand, rest)
    else dialect.readLeaf first rest
  | _, _ => none

/-- An operator is read from its text. What stands behind the text for a null has to be a null,
since the text for another one goes on differently. -/
theorem readOperator_text (operator : BinaryOperator) (nullRight : Bool) (rest : List Char)
    (null : nullRight = true → ∃ more, rest = "NULL".toList ++ more) :
    readOperator ((operator.text nullRight).toList ++ rest) = some (operator, rest) := by
  cases nullRight with
  | false => cases operator <;> rfl
  | true =>
    obtain ⟨more, rfl⟩ := null rfl
    cases operator <;> rfl

theorem readOutline_word (dialect : Dialect) (bound : Nat) (word rest : List Char)
    (nonempty : word ≠ []) (inside : word.all isWordCharacter = true) (ends : EndsLeaf rest) :
    dialect.readOutline (bound + 1) (word ++ rest) = some (.ofWord word, rest) := by
  rw [List.all_eq_true] at inside
  cases word with
  | nil => exact absurd rfl nonempty
  | cons first further =>
    obtain ⟨notBlank, notOpening, -, notQuote, -⟩ :=
      not_special_of_isWordCharacter (inside first List.mem_cons_self)
    obtain ⟨taken, dropped⟩ := span_append isWordCharacter further rest
      (fun character member => inside character (List.mem_cons_of_mem _ member))
      (fun next member => (ends next member).1)
    rw [List.cons_append, Dialect.readOutline, if_neg notOpening, if_neg notBlank,
      Dialect.readLeaf, if_neg notQuote, if_pos (inside first List.mem_cons_self), taken, dropped]

theorem readOutline_string (dialect : Dialect) (bound : Nat) (content : String)
    (rest : List Char) (ends : EndsLeaf rest) :
    dialect.readOutline (bound + 1) ((dialect.stringLiteral content).toList ++ rest) =
      some (.literal (dialect.stringLiteral content), rest) := by
  have noQuote : rest.head? ≠ some '\'' := fun quote => (ends '\'' quote).2 rfl
  rw [toList_stringLiteral, List.cons_append, List.append_assoc, List.singleton_append,
    Dialect.readOutline, if_neg (by decide), if_neg (by decide), Dialect.readLeaf, if_pos rfl,
    readContent_flatMap_escape dialect _ rest noQuote, Option.map_some, String.ofList_toList]

/-! ### Names and literals -/

theorem ofWord_of_isWord {name : String} (isWord : IsWord name) :
    Outline.ofWord name.toList = .column name := by
  obtain ⟨first, start, noDigit⟩ := isWord.first
  have noMinus : first ≠ '-' := by
    rintro rfl
    have inside := List.all_eq_true.mp isWord.characters '-' (List.mem_of_mem_head? start)
    exact absurd inside (by decide)
  have noNumber : name.toList.head?.any (fun first => first.isDigit || first == '-') = false := by
    rw [start, Option.any_some, noDigit, Bool.false_or, beq_eq_false_iff_ne]
    exact noMinus
  have noOther : ["NULL", "true", "false"].contains name = false := by
    rw [← Bool.not_eq_true, List.contains_iff_mem]
    exact isWord.noLiteral
  rw [Outline.ofWord, isLiteralWord, String.ofList_toList, noNumber, noOther]
  rfl

theorem ofWord_of_isNumberWord {word : List Char} (number : IsNumberWord word) :
    Outline.ofWord word = .literal (String.ofList word) := by
  obtain ⟨first, start, begins⟩ := number.first
  have isNumber : word.head?.any (fun first => first.isDigit || first == '-') = true := by
    rw [start, Option.any_some, Bool.or_eq_true, beq_iff_eq]
    exact begins
  rw [Outline.ofWord, isLiteralWord, isNumber, Bool.true_or, if_pos rfl]

/-- A name is read as a column. -/
theorem readOutline_name (dialect : Dialect) (bound : Nat) {name : String} (isWord : IsWord name)
    (rest : List Char) (ends : EndsLeaf rest) :
    dialect.readOutline (bound + 1) (name.toList ++ rest) = some (.column name, rest) := by
  have nonempty : name.toList ≠ [] := by
    obtain ⟨first, start, -⟩ := isWord.first
    exact List.ne_nil_of_mem (List.mem_of_mem_head? start)
  have inside : name.toList.all isWordCharacter = true := by
    rw [List.all_eq_true]
    intro character member
    simp [isWordCharacter, List.all_eq_true.mp isWord.characters character member]
  rw [readOutline_word dialect bound _ rest nonempty inside ends, ofWord_of_isWord isWord]

/-- A literal is read as that literal. -/
theorem readOutline_literal (dialect : Dialect) (bound : Nat) {text : String}
    (written : text = "NULL" ∨ dialect.IsLiteral text) (rest : List Char) (ends : EndsLeaf rest) :
    dialect.readOutline (bound + 1) (text.toList ++ rest) = some (.literal text, rest) := by
  rcases written with rfl | literal
  · exact readOutline_word dialect bound "NULL".toList rest (by decide) (by decide) ends
  cases literal with
  | truth content =>
    cases content <;>
      exact readOutline_word dialect bound (booleanLiteral _ _).toList rest (by decide)
        (by decide) ends
  | number word number =>
    have nonempty : word ≠ [] := by
      obtain ⟨first, start, -⟩ := number.first
      exact List.ne_nil_of_mem (List.mem_of_mem_head? start)
    have inside : word.all isWordCharacter = true := List.all_eq_true.mpr fun character member =>
      isWordCharacter_of_isNumberCharacter (number.characters character member)
    rw [String.toList_ofList, readOutline_word dialect bound word rest nonempty inside ends,
      ofWord_of_isNumberWord number]
  | string content => exact readOutline_string dialect bound content rest ends

/-! ### Reading what was written -/

/-- Whether the columns of an outline are words and its literals are literals. -/
def Outline.IsWritten (dialect : Dialect) : Outline → Prop
  | column name => IsWord name
  | literal text => text = "NULL" ∨ dialect.IsLiteral text
  | negation operand => operand.IsWritten dialect
  | binary _ left right => left.IsWritten dialect ∧ right.IsWritten dialect

theorem isWritten_outline {dialect : Dialect} {context : Context} {expression : Expression}
    (names : ∀ name ∈ expression.fields, IsWord (context.columnName name)) {outline : Outline}
    (outlined : dialect.outline context expression = .ok outline) : outline.IsWritten dialect := by
  induction expression generalizing outline with
  | binary operator left right leftHypothesis rightHypothesis =>
    rw [Expression.fields, List.forall_mem_append] at names
    obtain ⟨first, leftOutlined, rest⟩ := (bind_eq_ok_iff _ _ _).mp outlined
    obtain ⟨second, rightOutlined, equal⟩ := (bind_eq_ok_iff _ _ _).mp rest
    cases equal
    exact ⟨leftHypothesis names.1 leftOutlined, rightHypothesis names.2 rightOutlined⟩
  | negation operand inductionHypothesis =>
    obtain ⟨inner, operandOutlined, equal⟩ := (bind_eq_ok_iff _ _ _).mp outlined
    cases equal
    show inner.IsWritten dialect
    exact inductionHypothesis names operandOutlined
  | field name =>
    cases outlined
    exact names name List.mem_cons_self
  | literal value =>
    obtain ⟨text, written, equal⟩ := (bind_eq_ok_iff _ _ _).mp outlined
    cases equal
    cases null : value.isNull with
    | true => exact .inl ((literal_eq_null_iff written).mpr null)
    | false => exact .inr (isLiteral_literal dialect _ value text null written)

theorem exists_null_append {right : Outline} (null : right.isNull = true) (rest : List Char) :
    ∃ more, right.text.toList ++ rest = "NULL".toList ++ more := by
  cases right with
  | literal text => exact ⟨rest, by rw [Outline.text, beq_iff_eq.mp null]⟩
  | _ => cases null

/-- An outline is read back from its text, with what stands behind it left alone. -/
theorem readOutline_text (dialect : Dialect) (outline : Outline)
    (isWritten : outline.IsWritten dialect) (bound : Nat) (low : outline.height ≤ bound)
    (rest : List Char) (ends : EndsToken rest) :
    dialect.readOutline bound (outline.text.toList ++ rest) = some (outline, rest) := by
  induction outline generalizing bound rest with
  | column name =>
    obtain ⟨bound, rfl⟩ := Nat.exists_eq_add_of_lt low
    exact readOutline_name dialect _ isWritten rest (endsLeaf_of_endsToken ends)
  | literal text =>
    obtain ⟨bound, rfl⟩ := Nat.exists_eq_add_of_lt low
    exact readOutline_literal dialect _ isWritten rest (endsLeaf_of_endsToken ends)
  | negation operand inductionHypothesis =>
    obtain ⟨more, rfl⟩ := Nat.exists_eq_add_of_lt low
    have reads := inductionHypothesis isWritten _ (Nat.le_add_right _ more) rest ends
    rw [Outline.text, String.toList_append, List.append_assoc]
    show (dialect.readOutline (operand.height + more) (operand.text.toList ++ rest)).bind _ = _
    rw [reads]
    rfl
  | binary operator left right leftHypothesis rightHypothesis =>
    obtain ⟨more, rfl⟩ := Nat.exists_eq_add_of_lt low
    have leftLow : left.height ≤ max left.height right.height + more :=
      Nat.le_trans (Nat.le_max_left _ _) (Nat.le_add_right _ more)
    have rightLow : right.height ≤ max left.height right.height + more :=
      Nat.le_trans (Nat.le_max_right _ _) (Nat.le_add_right _ more)
    have readsRight := rightHypothesis isWritten.2 _ rightLow (')' :: rest) (endsToken_closing rest)
    have readsOperator := readOperator_text operator right.isNull
      (right.text.toList ++ ')' :: rest) fun null => exists_null_append null _
    have readsLeft := leftHypothesis isWritten.1 _ leftLow _
      (endsToken_operator operator right.isNull (right.text.toList ++ ')' :: rest))
    rw [Outline.text, toList_binary, List.cons_append, List.append_assoc, List.append_assoc,
      List.append_assoc, List.singleton_append, Dialect.readOutline, if_pos rfl, readsLeft]
    show (readOperator _).bind _ = _
    rw [readsOperator]
    show (dialect.readOutline _ _).bind _ = _
    rw [readsRight]
    rfl

/-- Two outlines of words and literals have one text only if they are one. -/
theorem text_injective {dialect : Dialect} {left right : Outline}
    (leftWritten : left.IsWritten dialect) (rightWritten : right.IsWritten dialect)
    (same : left.text = right.text) : left = right := by
  have reads (outline : Outline) (isWritten : outline.IsWritten dialect)
      (low : outline.height ≤ max left.height right.height) :
      dialect.readOutline (max left.height right.height) outline.text.toList =
        some (outline, []) := by
    have read := readOutline_text dialect outline isWritten _ low [] endsToken_nil
    rwa [List.append_nil] at read
  have readsLeft := reads left leftWritten (Nat.le_max_left _ _)
  rw [same, reads right rightWritten (Nat.le_max_right _ _)] at readsLeft
  cases readsLeft
  rfl

/-! ### The text of an expression -/

theorem isWord_columnName {context : Context} {name : String}
    (columns : ∀ table ∈ context.table, ∀ column ∈ table.columns, IsWord column.name)
    (isWord : IsWord name) : IsWord (context.columnName name) := by
  unfold Context.columnName
  split
  case h_1 table found =>
    unfold Table.columnName
    split
    case h_1 column named => exact columns table found column (List.mem_of_find?_eq_some named)
    case h_2 => exact isWord
  case h_2 => exact isWord

/-- Of two expressions whose names are words, and of which one has a text, the other one has the
same text exactly if both have the same outline: the same tree with the same operators, and the
same columns and literals in the same places. -/
theorem expressionText_eq_iff_outline_eq {dialect : Dialect} {context : Context}
    {left right : Expression} {text : String}
    (columns : ∀ table ∈ context.table, ∀ column ∈ table.columns, IsWord column.name)
    (leftNames : ∀ name ∈ left.fields, IsWord name)
    (rightNames : ∀ name ∈ right.fields, IsWord name)
    (written : dialect.expressionText context left = .ok text) :
    dialect.expressionText context right = .ok text ↔
      dialect.outline context right = dialect.outline context left := by
  have words {expression : Expression} (names : ∀ name ∈ expression.fields, IsWord name) :
      ∀ name ∈ expression.fields, IsWord (context.columnName name) :=
    fun name member => isWord_columnName columns (names name member)
  constructor
  · intro alsoWritten
    rw [expressionText_eq_outline, map_eq_ok_iff] at written alsoWritten
    obtain ⟨first, leftOutlined, rfl⟩ := written
    obtain ⟨second, rightOutlined, same⟩ := alsoWritten
    rw [leftOutlined, rightOutlined,
      text_injective (isWritten_outline (words rightNames) rightOutlined)
        (isWritten_outline (words leftNames) leftOutlined) same]
  · intro same
    rw [expressionText_eq_outline, same, ← expressionText_eq_outline]
    exact written

/-- A table with a column that is named like a word of the language. -/
def oddTable : Table :=
  ⟨"T", [{ field := "a", name := "first" }, { field := "b", name := "NOT" }]⟩

/-- A disjunction with a test for null and a string that looks like a condition. -/
def oddCondition (missing : Value) : Expression :=
  .binary .or (.negation (.binary .equal (.field "a") (.literal missing)))
    (.binary .equal (.field "b") (.literal (.text (some "' OR (NOT b"))))

theorem outline_oddCondition :
    Dialect.mysql.expressionText ⟨.selectWhere, some oddTable⟩ (oddCondition .null) =
        .ok "( NOT (first IS NULL) OR (NOT = ''' OR (NOT b'))" ∧
      Dialect.mysql.expressionText ⟨.selectWhere, some oddTable⟩ (oddCondition (.text none)) =
        .ok "( NOT (first IS NULL) OR (NOT = ''' OR (NOT b'))" ∧
      Dialect.mysql.outline ⟨.selectWhere, some oddTable⟩ (oddCondition (.text none)) =
        Dialect.mysql.outline ⟨.selectWhere, some oddTable⟩ (oddCondition .null) := by
  have columns : ∀ table ∈ some oddTable, ∀ column ∈ table.columns, IsWord column.name := by
    rintro table ⟨⟩ column member
    simp only [oddTable, List.mem_cons, List.not_mem_nil, or_false] at member
    rcases member with rfl | rfl
    · exact ⟨by decide, ⟨'f', rfl, rfl⟩, by decide⟩
    · exact ⟨by decide, ⟨'N', rfl, rfl⟩, by decide⟩
  have names (missing : Value) : ∀ name ∈ (oddCondition missing).fields, IsWord name := by
    intro name member
    have cases : name = "a" ∨ name = "b" := by
      simpa [oddCondition, Expression.fields] using member
    rcases cases with rfl | rfl
    · exact ⟨by decide, ⟨'a', rfl, rfl⟩, by decide⟩
    · exact ⟨by decide, ⟨'b', rfl, rfl⟩, by decide⟩
  have first : Dialect.mysql.expressionText ⟨.selectWhere, some oddTable⟩ (oddCondition .null) =
      .ok "( NOT (first IS NULL) OR (NOT = ''' OR (NOT b'))" := rfl
  have second : Dialect.mysql.expressionText ⟨.selectWhere, some oddTable⟩
      (oddCondition (.text none)) = .ok "( NOT (first IS NULL) OR (NOT = ''' OR (NOT b'))" := rfl
  exact ⟨first, second, (expressionText_eq_iff_outline_eq columns (names _) (names _) first).mp
    second⟩

end SqlRecords
