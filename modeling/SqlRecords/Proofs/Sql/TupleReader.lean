/-
This file reads the tuples of an INSERT the way a server does: literals in parentheses with
commas between them, and commas between the tuples. The text is cut into tokens first, so that
commas, parentheses and quotes inside a string are part of that string.

The reader knows nothing about the columns of a table. It is shown to read what is written for
any number of tuples, given texts that are literals of their own.
-/

import Mathlib.Data.List.Forall2
import SqlRecords.Proofs.Sql.ConditionReader

namespace SqlRecords

/-! ### The reader -/

/-- A literal of a tuple: NULL, or anything else as it is written. -/
inductive TupleLiteral where
  | null
  | written (text : String)
deriving DecidableEq, Repr

/-- The token of a literal. -/
def TupleLiteral.token : TupleLiteral → Token
  | null => .keyword .null
  | written text => .leaf text

/-- The literal that a token is. -/
def Token.literal? : Token → Option TupleLiteral
  | keyword .null => some .null
  | leaf text => some (.written text)
  | _ => none

/-- Reads the literals behind another literal of a tuple, and the end of the tuple. -/
def readLiterals : List Token → Option (List TupleLiteral × List Token)
  | .closing :: rest => some ([], rest)
  | .other ',' :: token :: rest => do
    let literal ← token.literal?
    let (literals, after) ← readLiterals rest
    return (literal :: literals, after)
  | _ => none

/-- Reads a tuple, which may be empty. -/
def readTuple : List Token → Option (List TupleLiteral × List Token)
  | .opening :: .closing :: rest => some ([], rest)
  | .opening :: token :: rest => do
    let literal ← token.literal?
    let (literals, after) ← readLiterals rest
    return (literal :: literals, after)
  | _ => none

/-- Reads tuples with commas between them, and nothing behind them. The bound is on their
number. -/
def readTuplesWithin : Nat → List Token → Option (List (List TupleLiteral))
  | 0, _ => none
  | bound + 1, tokens => do
    let (tuple, rest) ← readTuple tokens
    match rest with
    | [] => return [tuple]
    | .other ',' :: after => return tuple :: (← readTuplesWithin bound after)
    | _ => none

/-- Reads a text as tuples with commas between them. -/
def Dialect.readTuples (dialect : Dialect) (text : String) : Option (List (List TupleLiteral)) :=
  readTuplesWithin (text.length + 1) (dialect.tokens text.toList)

/-! ### Reading a tuple that was written -/

/-- Whether a text is a literal wherever it ends: it is cut off as the token of the literal. -/
def Dialect.Writes (dialect : Dialect) (text : String) (literal : TupleLiteral) : Prop :=
  ∀ rest, EndsLeaf rest →
    dialect.tokens (text.toList ++ rest) = literal.token :: dialect.tokens rest

/-- Whether a text is a tuple, whatever stands behind it. -/
def Dialect.WritesTuple (dialect : Dialect) (text : String) (tuple : List TupleLiteral) : Prop :=
  ∀ rest, readTuple (dialect.tokens (text.toList ++ rest)) = some (tuple, dialect.tokens rest)

/-- Texts with a comma before each of them. -/
def behindCommas (texts : List String) : List Char :=
  texts.flatMap fun text => ',' :: text.toList

theorem toList_intercalate_cons (first : String) (further : List String) :
    (",".intercalate (first :: further)).toList = first.toList ++ behindCommas further := by
  induction further generalizing first with
  | nil => simp [behindCommas]
  | cons next further inductionHypothesis =>
    rw [String.intercalate_cons_cons, String.toList_append, inductionHypothesis,
      String.toList_append]
    simp [behindCommas]

theorem length_le_length_behindCommas (texts : List String) :
    texts.length ≤ (behindCommas texts).length := by
  induction texts with
  | nil => exact Nat.le_refl _
  | cons text texts inductionHypothesis =>
    simp only [behindCommas, List.flatMap_cons, List.length_append, List.length_cons] at *
    omega

theorem tokens_comma (dialect : Dialect) (rest : List Char) :
    dialect.tokens (',' :: rest) = .other ',' :: dialect.tokens rest := by
  rw [Dialect.tokens, if_neg (by decide)]
  rfl

theorem literal?_token (literal : TupleLiteral) : literal.token.literal? = some literal := by
  cases literal <;> rfl

theorem endsLeaf_behindCommas (texts : List String) (rest : List Char) :
    EndsLeaf (behindCommas texts ++ ')' :: rest) := by
  intro first member
  cases texts <;> cases member <;> decide

theorem readLiterals_behindCommas {dialect : Dialect} {texts : List String}
    {literals : List TupleLiteral} (written : List.Forall₂ dialect.Writes texts literals)
    (rest : List Char) :
    readLiterals (dialect.tokens (behindCommas texts ++ ')' :: rest)) =
      some (literals, dialect.tokens rest) := by
  induction written with
  | nil =>
    show readLiterals (dialect.tokens (')' :: rest)) = _
    rw [tokens_closing]
    rfl
  | @cons text literal texts literals first _ inductionHypothesis =>
    have comma : behindCommas (text :: texts) ++ ')' :: rest =
        ',' :: (text.toList ++ (behindCommas texts ++ ')' :: rest)) := by
      simp [behindCommas]
    rw [comma, tokens_comma, first _ (endsLeaf_behindCommas texts rest), readLiterals,
      literal?_token, inductionHypothesis]
    rfl

/-- Literals in parentheses with commas between them are read as a tuple. -/
theorem writesTuple_intercalate {dialect : Dialect} {texts : List String}
    {literals : List TupleLiteral} (written : List.Forall₂ dialect.Writes texts literals) :
    dialect.WritesTuple ("(" ++ ",".intercalate texts ++ ")") literals := by
  intro rest
  have opening (inside : List Char) :
      dialect.tokens (("(" : String).toList ++ inside) = .opening :: dialect.tokens inside :=
    tokens_opening dialect inside
  rw [String.toList_append, String.toList_append, List.append_assoc, List.append_assoc, opening]
  show readTuple (.opening :: dialect.tokens (_ ++ ')' :: rest)) = _
  cases written with
  | nil =>
    show readTuple (.opening :: dialect.tokens (')' :: rest)) = _
    rw [tokens_closing]
    rfl
  | @cons text literal texts literals first further =>
    rw [toList_intercalate_cons, List.append_assoc, first _ (endsLeaf_behindCommas texts rest)]
    have closed := readLiterals_behindCommas further rest
    cases literal <;>
    · show (readLiterals _ >>= _) = _
      rw [closed]
      rfl

/-! ### Reading all tuples that were written -/

theorem readTuplesWithin_written {dialect : Dialect} {text : String} {tuple : List TupleLiteral}
    {texts : List String} {tuples : List (List TupleLiteral)}
    (first : dialect.WritesTuple text tuple)
    (further : List.Forall₂ dialect.WritesTuple texts tuples) (bound : Nat)
    (enough : texts.length ≤ bound) :
    readTuplesWithin (bound + 1) (dialect.tokens (text.toList ++ behindCommas texts)) =
      some (tuple :: tuples) := by
  induction further generalizing text tuple bound with
  | nil =>
    have ended : dialect.tokens (behindCommas []) = [] := tokens_nil dialect
    rw [readTuplesWithin, first, ended]
    rfl
  | @cons next nextTuple texts tuples nextWritten _ inductionHypothesis =>
    obtain ⟨less, rfl⟩ : ∃ less, bound = less + 1 := Nat.exists_eq_add_one.mpr (by
      rw [List.length_cons] at enough
      omega)
    have read := inductionHypothesis nextWritten less (Nat.le_of_succ_le_succ enough)
    have comma : behindCommas (next :: texts) = ',' :: (next.toList ++ behindCommas texts) := rfl
    rw [readTuplesWithin, first, comma, tokens_comma]
    show (readTuplesWithin (less + 1) _ >>= _) = _
    rw [read]
    rfl

/-- Tuples with commas between them are read one by one. -/
theorem readTuples_intercalate {dialect : Dialect} {texts : List String}
    {tuples : List (List TupleLiteral)} (written : List.Forall₂ dialect.WritesTuple texts tuples)
    (nonempty : texts ≠ []) : dialect.readTuples (",".intercalate texts) = some tuples := by
  cases written with
  | nil => exact absurd rfl nonempty
  | @cons text tuple texts tuples first further =>
    have bound : texts.length ≤ (",".intercalate (text :: texts)).length := by
      rw [← String.length_toList, toList_intercalate_cons, List.length_append]
      exact Nat.le_add_left_of_le (length_le_length_behindCommas texts)
    rw [Dialect.readTuples, toList_intercalate_cons]
    exact readTuplesWithin_written first further _ bound

-- A parenthesis and a comma inside a string belong to it, and a tuple may be empty.
example : Dialect.standard.readTuples "('a),''(b',NULL),()" =
    some [[.written "'a),''(b'", .null], []] := by cbv

end SqlRecords
