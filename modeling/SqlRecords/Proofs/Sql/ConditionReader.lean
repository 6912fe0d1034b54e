/-
This file reads the condition of a statement the way a server groups it: parentheses and leaves
first, then comparisons and tests for null, then negations, then conjunctions, and disjunctions
last.

The reader knows nothing about the expressions that conditions are written for. It cuts a text
into tokens and groups these by one level of operators after the other, each level reading its
operands with the level that binds tighter. Of a name, a number or a string it keeps what is
written.
-/

import SqlRecords.Expression
import SqlRecords.Proofs.Sql.StringReader

namespace SqlRecords

/-! ### Tokens -/

/-- The words that mean something in a condition or end it. -/
inductive Keyword where
  | and
  | or
  | not
  | is
  | null
  | order
  | limit
deriving DecidableEq, Repr

/-- The pieces of a condition. -/
inductive Token where
  | opening
  | closing
  | comparison (operator : BinaryOperator)
  | keyword (word : Keyword)
  /-- a name, a number or a string, as it is written -/
  | leaf (text : String)
  /-- anything that has no place in a condition -/
  | other (character : Char)
deriving DecidableEq, Repr

/-- The words that mean something, in capital letters. -/
def keywords : List (List Char × Keyword) :=
  [("AND".toList, .and), ("OR".toList, .or), ("NOT".toList, .not), ("IS".toList, .is),
    ("NULL".toList, .null), ("ORDER".toList, .order), ("LIMIT".toList, .limit)]

/-- The meaning of a word in any letter case, if it has one. -/
def keyword? (word : List Char) : Option Keyword :=
  keywords.lookup (word.map Char.toUpper)

/-- The token of a word. -/
def Token.ofWord (word : List Char) : Token :=
  match keyword? word with
  | some meaning => .keyword meaning
  | none => .leaf (String.ofList word)

/-- The comparisons and their signs. -/
def comparisonSigns : List (List Char × BinaryOperator) :=
  [("=".toList, .equal), ("<>".toList, .notEqual), ("<".toList, .less), ("<=".toList, .lessEqual),
    (">".toList, .greater), (">=".toList, .greaterEqual)]

/-- The token of a run of characters of comparisons. -/
def Token.ofSigns (first : Char) (further : List Char) : Token :=
  match comparisonSigns.lookup (first :: further) with
  | some operator => .comparison operator
  | none => .other first

/-- Whether a character belongs to names. -/
def isNameCharacter (character : Char) : Bool :=
  character.isAlphanum || character == '_' || 128 ≤ character.toNat

/-- Whether a character belongs to words: to names, or to numbers with sign, point and
exponent. -/
def isWordCharacter (character : Char) : Bool :=
  isNameCharacter character || character == '.' || character == '-'

/-- Whether a character belongs to signs of comparisons. -/
def isSignCharacter (character : Char) : Bool :=
  character == '=' || character == '<' || character == '>'

/-- The token that begins with a character, and what stands behind it. -/
def Dialect.readToken (dialect : Dialect) (first : Char) (rest : List Char) :
    Token × List Char :=
  if first = '(' then (.opening, rest)
  else if first = ')' then (.closing, rest)
  else if first = '\'' then
    match dialect.readContent rest with
    | some (_, after) =>
      (.leaf (String.ofList (first :: rest.take (rest.length - after.length))), after)
    | none => (.other first, rest)
  else if isSignCharacter first then
    (.ofSigns first (rest.takeWhile isSignCharacter), rest.dropWhile isSignCharacter)
  else if isWordCharacter first then
    (.ofWord (first :: rest.takeWhile isWordCharacter), rest.dropWhile isWordCharacter)
  else (.other first, rest)

theorem length_readContent_le (dialect : Dialect) (text content after : List Char)
    (read : dialect.readContent text = some (content, after)) : after.length ≤ text.length := by
  fun_induction Dialect.readContent dialect text generalizing content after
  case case1 => cases read
  case case3 =>
    cases read
    exact Nat.le_succ _
  -- everywhere else the content is that of a shorter text with something in front
  all_goals
    rename_i inductionHypothesis
    obtain ⟨inner, reads, equal⟩ := Option.map_eq_some_iff.mp read
    cases equal
    subst_vars
    have shorter := inductionHypothesis _ _ reads
    simp only [List.length_cons] at shorter ⊢
    omega

theorem length_dropWhile_le (test : Char → Bool) (text : List Char) :
    (text.dropWhile test).length ≤ text.length :=
  (List.dropWhile_suffix test).length_le

theorem length_readToken_le (dialect : Dialect) (first : Char) (rest : List Char) :
    (dialect.readToken first rest).2.length ≤ rest.length := by
  unfold Dialect.readToken
  split
  · exact Nat.le_refl _
  split
  · exact Nat.le_refl _
  split
  · split
    case h_1 content after read => exact length_readContent_le dialect rest content after read
    case h_2 => exact Nat.le_refl _
  split
  · exact length_dropWhile_le _ _
  split
  · exact length_dropWhile_le _ _
  · exact Nat.le_refl _

/-- The tokens of a text. Blanks only stand between them. -/
def Dialect.tokens (dialect : Dialect) : List Char → List Token
  | [] => []
  | first :: rest =>
    if first = ' ' then dialect.tokens rest
    else
      (dialect.readToken first rest).1 :: dialect.tokens (dialect.readToken first rest).2
termination_by text => text.length
decreasing_by
  · exact Nat.lt_succ_self _
  · exact Nat.lt_succ_of_le (length_readToken_le dialect first rest)

/-! ### Tokens of written pieces -/

/-- Whether a token that is written in front of a text ends where the text begins: the text is
empty or begins with a blank or a closing parenthesis. -/
def EndsToken (rest : List Char) : Prop :=
  ∀ first ∈ rest.head?, first = ' ' ∨ first = ')'

/-- Whether a word or a string that is written in front of a text ends where the text begins: the
text does not go on with a character of words or a quote. -/
def EndsLeaf (rest : List Char) : Prop :=
  ∀ first ∈ rest.head?, isWordCharacter first = false ∧ first ≠ '\''

/-- The texts that are leaves: words without a meaning of their own, and strings. -/
inductive Dialect.IsLeaf (dialect : Dialect) : String → Prop where
  | word (text : String) (nonempty : text.toList ≠ [])
      (characters : text.toList.all isWordCharacter = true)
      (plain : keyword? text.toList = none) : IsLeaf dialect text
  | string (content : String) : IsLeaf dialect (dialect.stringLiteral content)

theorem endsToken_nil : EndsToken [] := by
  intro first member
  cases member

theorem endsToken_blank (rest : List Char) : EndsToken (' ' :: rest) := by
  intro first member
  cases member
  exact Or.inl rfl

theorem endsToken_closing (rest : List Char) : EndsToken (')' :: rest) := by
  intro first member
  cases member
  exact Or.inr rfl

theorem endsLeaf_of_endsToken {rest : List Char} (ends : EndsToken rest) : EndsLeaf rest := by
  intro first member
  rcases ends first member with rfl | rfl <;> decide

theorem tokens_nil (dialect : Dialect) : dialect.tokens [] = [] := by
  rw [Dialect.tokens]

theorem tokens_blank (dialect : Dialect) (rest : List Char) :
    dialect.tokens (' ' :: rest) = dialect.tokens rest := by
  rw [Dialect.tokens, if_pos rfl]

theorem tokens_opening (dialect : Dialect) (rest : List Char) :
    dialect.tokens ('(' :: rest) = .opening :: dialect.tokens rest := by
  rw [Dialect.tokens, if_neg (by decide)]
  rfl

theorem tokens_closing (dialect : Dialect) (rest : List Char) :
    dialect.tokens (')' :: rest) = .closing :: dialect.tokens rest := by
  rw [Dialect.tokens, if_neg (by decide)]
  rfl

/-- A run of characters that pass a test ends where a character fails it. -/
theorem span_append (test : Char → Bool) (run rest : List Char)
    (inside : ∀ character ∈ run, test character = true)
    (ends : ∀ first ∈ rest.head?, test first = false) :
    (run ++ rest).takeWhile test = run ∧ (run ++ rest).dropWhile test = rest := by
  rw [List.takeWhile_append_of_pos inside, List.dropWhile_append_of_pos inside]
  cases rest with
  | nil => exact ⟨List.append_nil run, rfl⟩
  | cons first rest =>
    have failing : test first = false := ends first rfl
    rw [List.takeWhile_cons_of_neg (by rw [failing]; decide),
      List.dropWhile_cons_of_neg (by rw [failing]; decide), List.append_nil]
    exact ⟨rfl, rfl⟩

theorem not_special_of_isWordCharacter {character : Char}
    (inside : isWordCharacter character = true) :
    character ≠ ' ' ∧ character ≠ '(' ∧ character ≠ ')' ∧ character ≠ '\'' ∧
      isSignCharacter character = false := by
  refine ⟨?_, ?_, ?_, ?_, ?_⟩
  case refine_5 =>
    rw [isSignCharacter, Bool.or_eq_false_iff, Bool.or_eq_false_iff, beq_eq_false_iff_ne,
      beq_eq_false_iff_ne, beq_eq_false_iff_ne]
    refine ⟨⟨?_, ?_⟩, ?_⟩ <;> · rintro rfl; exact absurd inside (by decide)
  all_goals rintro rfl; exact absurd inside (by decide)

/-- A word is one token. -/
theorem tokens_word (dialect : Dialect) (word rest : List Char) (nonempty : word ≠ [])
    (inside : word.all isWordCharacter = true) (ends : EndsLeaf rest) :
    dialect.tokens (word ++ rest) = .ofWord word :: dialect.tokens rest := by
  rw [List.all_eq_true] at inside
  cases word with
  | nil => exact absurd rfl nonempty
  | cons first further =>
    obtain ⟨notBlank, notOpening, notClosing, notQuote, notSign⟩ :=
      not_special_of_isWordCharacter (inside first (List.mem_cons_self))
    obtain ⟨taken, dropped⟩ := span_append isWordCharacter further rest
      (fun character member => inside character (List.mem_cons_of_mem _ member))
      (fun next member => (ends next member).1)
    rw [List.cons_append, Dialect.tokens, if_neg notBlank, Dialect.readToken, if_neg notOpening,
      if_neg notClosing, if_neg notQuote, if_neg (by rw [notSign]; decide),
      if_pos (inside first List.mem_cons_self), taken, dropped]

/-- The sign of a comparison is one token when a blank stands behind it. -/
theorem tokens_signs (dialect : Dialect) (first : Char) (further rest : List Char)
    (inside : (first :: further).all isSignCharacter = true) :
    dialect.tokens (first :: (further ++ ' ' :: rest)) =
      .ofSigns first further :: dialect.tokens rest := by
  rw [List.all_eq_true] at inside
  have sign : isSignCharacter first = true := inside first List.mem_cons_self
  obtain ⟨taken, dropped⟩ := span_append isSignCharacter further (' ' :: rest)
    (fun character member => inside character (List.mem_cons_of_mem _ member))
    (fun next member => by cases member; decide)
  have special (other : Char) (failing : isSignCharacter other = false) : first ≠ other := by
    rintro rfl
    rw [sign] at failing
    cases failing
  rw [Dialect.tokens, if_neg (special ' ' rfl), Dialect.readToken, if_neg (special '(' rfl),
    if_neg (special ')' rfl), if_neg (special '\'' rfl), if_pos sign, taken, dropped, tokens_blank]

/-- A string is one token. -/
theorem tokens_stringLiteral (dialect : Dialect) (content : String) (rest : List Char)
    (ends : EndsLeaf rest) :
    dialect.tokens ((dialect.stringLiteral content).toList ++ rest) =
      .leaf (dialect.stringLiteral content) :: dialect.tokens rest := by
  have noQuote : rest.head? ≠ some '\'' := fun quote => (ends '\'' quote).2 rfl
  have taken : (content.toList.flatMap dialect.escape ++ '\'' :: rest).take
      ((content.toList.flatMap dialect.escape ++ '\'' :: rest).length - rest.length) =
        content.toList.flatMap dialect.escape ++ ['\''] := by
    rw [List.append_cons, List.length_append, Nat.add_sub_cancel, List.take_left']
    rfl
  rw [toList_stringLiteral, List.cons_append, List.append_assoc, List.singleton_append,
    Dialect.tokens, if_neg (by decide), Dialect.readToken, if_neg (by decide),
    if_neg (by decide), if_pos rfl, readContent_flatMap_escape dialect _ rest noQuote]
  show Token.leaf _ :: dialect.tokens rest = _
  rw [taken, Dialect.stringLiteral]
  rfl

theorem tokens_leaf (dialect : Dialect) (text : String) (rest : List Char)
    (leaf : dialect.IsLeaf text) (ends : EndsLeaf rest) :
    dialect.tokens (text.toList ++ rest) = .leaf text :: dialect.tokens rest := by
  cases leaf with
  | word _ nonempty characters plain =>
    rw [tokens_word dialect text.toList rest nonempty characters ends, Token.ofWord, plain]
    show Token.leaf (String.ofList text.toList) :: _ = _
    rw [String.ofList_toList]
  | string content => exact tokens_stringLiteral dialect content rest ends

/-! ### Conditions -/

/-- A condition as it is grouped. -/
inductive Condition where
  | leaf (text : String)
  | null
  | negation (operand : Condition)
  | binary (operator : BinaryOperator) (left right : Condition)
deriving DecidableEq, Repr

/-- A reader of the condition that some tokens begin with: the condition and the tokens behind
it. -/
abbrev ConditionReader := List Token → Option (Condition × List Token)

/-! ### Levels of operators -/

/-- Reads a leaf, or a condition in parentheses with the given reader. -/
def readOperand (readInside : ConditionReader) : ConditionReader
  | .opening :: rest =>
    match readInside rest with
    | some (condition, .closing :: after) => some (condition, after)
    | _ => none
  | .keyword .null :: rest => some (.null, rest)
  | .leaf text :: rest => some (.leaf text, rest)
  | _ => none

/-- Reads at most one comparison or test for null behind its left operand. -/
def readComparisonFrom (readOperand : ConditionReader) (left : Condition) : ConditionReader
  | .comparison operator :: rest =>
    (readOperand rest).map fun read => (.binary operator left read.1, read.2)
  | .keyword .is :: .keyword .null :: rest => some (.binary .equal left .null, rest)
  | .keyword .is :: .keyword .not :: .keyword .null :: rest =>
    some (.binary .notEqual left .null, rest)
  | tokens => some (left, tokens)

/-- Reads an operand, or a comparison or test for null between operands. -/
def readComparison (readOperand : ConditionReader) : ConditionReader := fun tokens => do
  let (left, rest) ← readOperand tokens
  readComparisonFrom readOperand left rest

/-- Reads any number of negations in front of an operand. -/
def readNegation (readOperand : ConditionReader) : ConditionReader
  | .keyword .not :: rest =>
    (readNegation readOperand rest).map fun read => (.negation read.1, read.2)
  | tokens => readOperand tokens

/-- Reads further operands, each behind the word of an operator, and groups them from the left.
The bound is on their number. -/
def readJoinedFrom (word : Keyword) (operator : BinaryOperator) (readOperand : ConditionReader) :
    Nat → Condition → ConditionReader
  | bound + 1, left, .keyword other :: rest =>
    if other = word then do
      let (right, after) ← readOperand rest
      readJoinedFrom word operator readOperand bound (.binary operator left right) after
    else
      some (left, .keyword other :: rest)
  | _, left, tokens => some (left, tokens)

/-- Reads operands with the word of an operator between them. -/
def readJoined (word : Keyword) (operator : BinaryOperator) (readOperand : ConditionReader) :
    ConditionReader := fun tokens => do
  let (first, rest) ← readOperand tokens
  readJoinedFrom word operator readOperand rest.length first rest

/-- Reads an operand of a conjunction, where a bound is on the depth of parentheses and the
reader inside of them is given. -/
def readFactor (readInside : ConditionReader) : ConditionReader :=
  readNegation (readComparison (readOperand readInside))

/-- Reads a condition whose parentheses are nested no deeper than a bound. -/
def readCondition : Nat → ConditionReader
  | 0 => fun _ => none
  | depth + 1 =>
    readJoined .or .or (readJoined .and .and (readFactor (readCondition depth)))

/-- Whether a token belongs to a condition and does not begin the clause behind it. -/
def Token.isInCondition : Token → Bool
  | keyword .order | keyword .limit => false
  | _ => true

/-- Reads the text behind the beginning of a condition, up to the next clause of the
statement. -/
def Dialect.readWhere (dialect : Dialect) (text : String) : Option Condition :=
  let tokens := (dialect.tokens text.toList).takeWhile Token.isInCondition
  match readCondition (tokens.length + 1) tokens with
  | some (condition, []) => some condition
  | _ => none

end SqlRecords
