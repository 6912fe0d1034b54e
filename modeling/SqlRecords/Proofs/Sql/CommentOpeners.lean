/-
This file says where comments can begin in what is written for MySQL. Nothing that the writer adds
on its own begins one: the minus of a number has a digit behind it, strings end where they should,
and no other sign of a comment is ever written outside of them. Names are written as they are, so a
number sign in a name is the one thing that begins a comment.

The text is read from its beginning, as the server reads it, with the place that is reached: outside
of quotes, in them, or behind a backslash in them. Whatever is appended to a text that leaves the
quotes is read as it is on its own, so texts are put together from pieces here.
-/

import SqlRecords.Proofs.Sql.Appending
import SqlRecords.Proofs.Sql.WhereCondition
import Mathlib.Data.Bool.AllAny

namespace SqlRecords

open TextWriter

namespace Mysql

/-! ### Reading quotes -/

/-- The quotes: two for strings, and one for names. -/
inductive Quote where
  | single
  | double
  | backtick
deriving DecidableEq, Repr

/-- The mark that opens and closes a quote. -/
def Quote.mark : Quote → Char
  | single => '\''
  | double => '"'
  | backtick => '`'

/-- The quote that a character opens. -/
def Quote.ofMark? : Char → Option Quote
  | '\'' => some single
  | '"' => some double
  | '`' => some backtick
  | _ => none

/-- Where a reader is in a text. -/
inductive Place where
  | code
  | quoted (quote : Quote)
  /-- behind a backslash in quotes -/
  | escaped (quote : Quote)
deriving DecidableEq, Repr

namespace Place

/-- The place behind one more character. A doubled mark in quotes is as good as their end and a new
beginning. In the quotes of names a backslash means nothing. -/
def next : Place → Char → Place
  | code, character =>
    match Quote.ofMark? character with
    | some quote => quoted quote
    | none => code
  | quoted quote, character =>
    if character = quote.mark then code
    else if character = '\\' ∧ quote ≠ .backtick then escaped quote
    else quoted quote
  | escaped quote, _ => quoted quote

theorem next_code {character : Char} (unquoted : Quote.ofMark? character = none) :
    code.next character = code := by
  rw [next, unquoted]

/-- A blank leaves no quotes. -/
theorem eq_code_of_next_blank {place : Place} (leaves : place.next ' ' = code) : place = code := by
  cases place with
  | code => rfl
  | quoted quote => cases quote <;> cases leaves
  | escaped quote => cases leaves

/-- The place behind a text. -/
def after (place : Place) (text : List Char) : Place :=
  text.foldl next place

/-- The characters of a text that are not in quotes. The marks of the quotes are not in them. -/
def outside : Place → List Char → List Char
  | _, [] => []
  | place, character :: rest =>
    (if place = code ∨ place.next character = code then [character] else []) ++
      (place.next character).outside rest

theorem after_append (place : Place) (first second : List Char) :
    place.after (first ++ second) = (place.after first).after second :=
  List.foldl_append

theorem outside_append (place : Place) (first second : List Char) :
    place.outside (first ++ second) =
      place.outside first ++ (place.after first).outside second := by
  induction first generalizing place with
  | nil => rfl
  | cons character rest inductionHypothesis =>
    rw [List.cons_append, outside, outside, inductionHypothesis, List.append_assoc]
    rfl

/-- A text without quotes is all outside of them. -/
theorem outside_of_unquoted {text : List Char}
    (unquoted : ∀ character ∈ text, Quote.ofMark? character = none) :
    code.after text = code ∧ code.outside text = text := by
  induction text with
  | nil => exact ⟨rfl, rfl⟩
  | cons character rest inductionHypothesis =>
    obtain ⟨first, further⟩ := List.forall_mem_cons.mp unquoted
    obtain ⟨stays, kept⟩ := inductionHypothesis further
    have same := next_code first
    constructor
    · rw [after, List.foldl_cons, same]
      exact stays
    · rw [outside, if_pos (.inl rfl), same, kept, List.singleton_append]

/-- Nothing of what is written for the characters of a string is outside, apart from the marks. -/
theorem outside_escaped (content : List Char) :
    (quoted .single).after (content.flatMap Dialect.mysql.escape) = quoted .single ∧
      ∀ character ∈ (quoted .single).outside (content.flatMap Dialect.mysql.escape),
        character = '\'' := by
  induction content with
  | nil => exact ⟨rfl, List.forall_mem_nil _⟩
  | cons character rest inductionHypothesis =>
    have one : (quoted .single).after (Dialect.mysql.escape character) = quoted .single ∧
        ∀ other ∈ (quoted .single).outside (Dialect.mysql.escape character), other = '\'' := by
      by_cases isQuote : character = '\''
      · subst isQuote
        exact ⟨rfl, List.all_iff_forall_prop.mp rfl⟩
      by_cases isBackslash : character = '\\'
      · subst isBackslash
        exact ⟨rfl, List.all_iff_forall_prop.mp rfl⟩
      · have stays : (quoted .single).next character = quoted .single := by
          exact (if_neg isQuote).trans (if_neg fun both => isBackslash both.1)
        rw [escape_of_plain _ _ isQuote isBackslash]
        refine ⟨stays, ?_⟩
        rw [outside, stays]
        exact List.forall_mem_nil _
    obtain ⟨stays, marks⟩ := one
    obtain ⟨restStays, restMarks⟩ := inductionHypothesis
    rw [List.flatMap_cons, after_append, outside_append, stays, List.forall_mem_append]
    exact ⟨restStays, marks, restMarks⟩

end Place

/-- Whether some sign of a comment stands in a statement outside of quotes. The first of them begins
the comment, so what would be read in the comment does not matter. Two minus signs count whatever
stands behind them. -/
def OpensComment (text : String) : Prop :=
  ∃ opener ∈ ["#", "--", "/*"], opener.toList <:+: Place.code.outside text.toList

/-! ### Minus signs -/

/-- Whether a digit stands behind each minus. -/
def minusesLead : List Char → Bool
  | [] => true
  | character :: rest =>
    (character != '-' || rest.head?.any Char.isDigit) && minusesLead rest

theorem minusesLead_append {first second : List Char} (left : minusesLead first = true)
    (right : minusesLead second = true) : minusesLead (first ++ second) = true := by
  induction first with
  | nil => exact right
  | cons character rest inductionHypothesis =>
    rw [minusesLead, Bool.and_eq_true] at left
    rw [List.cons_append, minusesLead, Bool.and_eq_true]
    refine ⟨?_, inductionHypothesis left.2⟩
    cases rest with
    | nil =>
      rw [List.head?_nil, Option.any_none, Bool.or_false] at left
      rw [left.1, Bool.true_or]
    | cons => exact left.1

theorem minusesLead_of_not_mem {text : List Char} (absent : '-' ∉ text) :
    minusesLead text = true := by
  induction text with
  | nil => rfl
  | cons character rest inductionHypothesis =>
    rw [List.mem_cons, not_or] at absent
    obtain ⟨other, further⟩ := absent
    rw [minusesLead, inductionHypothesis further, bne_iff_ne.mpr (Ne.symm other)]
    rfl

theorem not_isInfix_of_minusesLead {text : List Char} (lead : minusesLead text = true) :
    ¬['-', '-'] <:+: text := by
  rintro ⟨before, behind, rfl⟩
  induction before with
  | nil => cases lead
  | cons character rest inductionHypothesis =>
    rw [List.cons_append, List.cons_append, minusesLead, Bool.and_eq_true] at lead
    exact inductionHypothesis lead.2

/-- What stands in front of a blank does not end in a minus. -/
theorem minusesLead_of_blank {text : List Char} (lead : minusesLead (text ++ [' ']) = true) :
    minusesLead text = true := by
  induction text with
  | nil => rfl
  | cons character rest inductionHypothesis =>
    rw [List.cons_append, minusesLead, Bool.and_eq_true] at lead
    rw [minusesLead, Bool.and_eq_true]
    refine ⟨?_, inductionHypothesis lead.2⟩
    cases rest with
    | nil => exact lead.1
    | cons => exact lead.1

theorem minusesLead_digits {digits : List Char}
    (allDigits : ∀ character ∈ digits, character.isDigit = true) : minusesLead digits = true :=
  minusesLead_of_not_mem fun member => absurd (allDigits '-' member) (by decide)

theorem minusesLead_fraction {digits : List Char}
    (allDigits : ∀ character ∈ digits, character.isDigit = true) :
    minusesLead ('.' :: digits) = true := by
  rw [minusesLead, minusesLead_digits allDigits]
  rfl

theorem minusesLead_signed (negative : Bool) {digits further : List Char} (nonempty : digits ≠ [])
    (allDigits : ∀ character ∈ digits, character.isDigit = true)
    (lead : minusesLead further = true) :
    minusesLead ((if negative then ['-'] else []) ++ (digits ++ further)) = true := by
  have unsigned := minusesLead_append (minusesLead_digits allDigits) lead
  cases negative with
  | false => exact unsigned
  | true =>
    obtain ⟨first, rest, rfl⟩ := List.exists_cons_of_ne_nil nonempty
    show minusesLead ('-' :: (first :: rest ++ further)) = true
    rw [minusesLead, unsigned, List.cons_append, List.head?_cons, Option.any_some,
      allDigits first List.mem_cons_self]
    rfl

theorem minusesLead_intText (value : Int) : minusesLead (Integer.intText value) = true := by
  have digits {character : Char} (member : character ∈ Nat.toDigits 10 value.natAbs) :=
    isDigit_of_mem_toDigits member
  unfold Integer.intText
  split
  · have negated := minusesLead_signed true Nat.toDigits_ne_nil (fun _ => digits)
      (minusesLead_of_not_mem List.not_mem_nil)
    rwa [List.append_nil] at negated
  · exact minusesLead_digits fun _ => digits

theorem minusesLead_of_isSigned {word : List Char} (signed : IsSigned word) :
    minusesLead word = true := by
  obtain ⟨negative, ⟨nonempty, allDigits, isFraction, isExponent⟩⟩ := signed
  refine minusesLead_signed negative nonempty allDigits (minusesLead_append ?_ ?_)
  · cases isFraction with
    | none => rfl
    | point behind => exact minusesLead_fraction behind
  · cases isExponent with
    | none => rfl
    | power value =>
      rw [minusesLead, minusesLead_intText]
      rfl

/-! ### Texts that begin no comment -/

/-- Whether a text leaves all quotes and, apart from number signs in some names, has nothing outside
of them that begins a comment. -/
structure CleanBut (names : List String) (text : String) : Prop where
  leaves : Place.code.after text.toList = .code
  slashless : '/' ∉ Place.code.outside text.toList
  lead : minusesLead (Place.code.outside text.toList) = true
  marks : '#' ∈ Place.code.outside text.toList ↔ ∃ name ∈ names, '#' ∈ name.toList

theorem CleanBut.opensComment_iff {names : List String} {text : String}
    (clean : CleanBut names text) : OpensComment text ↔ ∃ name ∈ names, '#' ∈ name.toList := by
  rw [← clean.marks]
  constructor
  · rintro ⟨opener, member, inside⟩
    simp only [List.mem_cons, List.not_mem_nil, or_false] at member
    rcases member with rfl | rfl | rfl
    · exact inside.subset List.mem_cons_self
    · exact absurd inside (not_isInfix_of_minusesLead clean.lead)
    · exact absurd (inside.subset List.mem_cons_self) clean.slashless
  · intro mark
    obtain ⟨before, behind, split⟩ := List.append_of_mem mark
    exact ⟨"#", List.mem_cons_self, before, behind, by rw [split, List.append_assoc]; rfl⟩

theorem CleanBut.append {names others : List String} {first second : String}
    (left : CleanBut names first) (right : CleanBut others second) :
    CleanBut (names ++ others) (first ++ second) := by
  have outside : Place.code.outside (first ++ second).toList =
      Place.code.outside first.toList ++ Place.code.outside second.toList := by
    rw [String.toList_append, Place.outside_append, left.leaves]
  refine ⟨?_, ?_, ?_, ?_⟩
  · rw [String.toList_append, Place.after_append, left.leaves, right.leaves]
  · rw [outside, List.mem_append]
    exact not_or.mpr ⟨left.slashless, right.slashless⟩
  · rw [outside]
    exact minusesLead_append left.lead right.lead
  · rw [outside, List.mem_append, left.marks, right.marks]
    simp only [List.mem_append, or_and_right, exists_or]

theorem cleanBut_of_unquoted {names : List String} {text : String}
    (unquoted : ∀ character ∈ text.toList, Quote.ofMark? character = none)
    (slashless : '/' ∉ text.toList) (lead : minusesLead text.toList = true)
    (marks : '#' ∈ text.toList ↔ ∃ name ∈ names, '#' ∈ name.toList) : CleanBut names text := by
  obtain ⟨leaves, outside⟩ := Place.outside_of_unquoted unquoted
  refine ⟨leaves, ?_, ?_, ?_⟩ <;> rw [outside]
  · exact slashless
  · exact lead
  · exact marks

/-- The characters that open quotes, and the slash and the minus of the signs of comments. The number
sign is not one of them, since names may have it. -/
def reserved : List Char := ['\'', '"', '`', '/', '-']

/-- Whether a name has none of these characters. -/
def IsPlainIdentifier (name : String) : Prop :=
  ∀ character ∈ name.toList, character ∉ reserved

theorem ofMark?_of_not_reserved {character : Char} (plain : character ∉ reserved) :
    Quote.ofMark? character = none := by
  unfold Quote.ofMark?
  split
  case h_4 => rfl
  all_goals exact absurd (by decide) plain

theorem cleanBut_name {name : String} (plain : IsPlainIdentifier name) : CleanBut [name] name := by
  refine cleanBut_of_unquoted
    (fun character member => ofMark?_of_not_reserved (plain character member))
    (fun member => plain '/' member (by decide))
    (minusesLead_of_not_mem fun member => plain '-' member (by decide)) ?_
  simp only [List.mem_singleton, exists_eq_left]

/-- What the writer adds on its own is made of other characters. -/
theorem cleanBut_piece {text : String} (free : text.toList.all (· ∉ '#' :: reserved) = true) :
    CleanBut [] text := by
  have other := List.all_iff_forall_prop.mp free
  have plain : ∀ character ∈ text.toList, character ∉ reserved :=
    fun character member inside => other character member (List.mem_cons_of_mem _ inside)
  refine cleanBut_of_unquoted
    (fun character member => ofMark?_of_not_reserved (plain character member))
    (fun member => plain '/' member (by decide))
    (minusesLead_of_not_mem fun member => plain '-' member (by decide))
    (iff_of_false (fun member => other '#' member List.mem_cons_self) ?_)
  rintro ⟨name, member, -⟩
  cases member

theorem cleanBut_number {word : List Char} (signed : IsSigned word) :
    CleanBut [] (String.ofList word) := by
  have number := (isNumberWord_of_isSigned signed).characters
  refine cleanBut_of_unquoted ?_ ?_ ?_ (iff_of_false ?_ ?_)
  · rw [String.toList_ofList]
    intro character member
    have inside := number character member
    unfold Quote.ofMark?
    split
    case h_4 => rfl
    all_goals cases inside
  · rw [String.toList_ofList]
    exact fun member => absurd (number '/' member) (by decide)
  · rw [String.toList_ofList]
    exact minusesLead_of_isSigned signed
  · rw [String.toList_ofList]
    exact fun member => absurd (number '#' member) (by decide)
  · rintro ⟨name, member, -⟩
    cases member

theorem cleanBut_string (content : String) :
    CleanBut [] (Dialect.mysql.stringLiteral content) := by
  obtain ⟨stays, marks⟩ := Place.outside_escaped content.toList
  have opened : Place.code.next '\'' = .quoted .single := rfl
  have outside : ∀ character ∈ Place.code.outside (Dialect.mysql.stringLiteral content).toList,
      character = '\'' := by
    rw [toList_stringLiteral, Place.outside, opened, Place.outside_append, stays,
      List.forall_mem_append, List.forall_mem_append]
    exact ⟨List.all_iff_forall_prop.mp rfl, marks, List.all_iff_forall_prop.mp rfl⟩
  refine ⟨?_, fun member => ?_, minusesLead_of_not_mem fun member => ?_,
    iff_of_false (fun member => ?_) ?_⟩
  · rw [toList_stringLiteral, Place.after, List.foldl_cons, opened]
    exact (Place.after_append _ _ _).trans (congrArg (Place.after · ['\'']) stays)
  · exact absurd (outside '/' member) (by decide)
  · exact absurd (outside '-' member) (by decide)
  · exact absurd (outside '#' member) (by decide)
  · rintro ⟨name, member, -⟩
    cases member

/-- No literal begins a comment, whatever it holds. -/
theorem cleanBut_literal {forKey : Bool} {value : Value} {text : String}
    (written : Dialect.mysql.literal forKey value = .ok text) : CleanBut [] text := by
  cases null : value.isNull with
  | true =>
    rw [literal_of_isNull _ _ _ null] at written
    cases written
    exact cleanBut_piece (by decide)
  | false =>
    cases isContentLiteral_literal _ _ _ _ null written with
    | truth forKey content => cases forKey <;> cases content <;> exact cleanBut_piece (by decide)
    | number signed => exact cleanBut_number signed
    | string content => exact cleanBut_string content

/-! ### Lists of texts -/

section Lists

variable {Item : Type} {names : Item → List String} {items : List Item} {texts : List String}

theorem cleanBut_intercalate {separator : String} (plain : CleanBut [] separator)
    (all : List.Forall₂ (fun item text => CleanBut (names item) text) items texts) :
    CleanBut (items.flatMap names) (separator.intercalate texts) := by
  induction all with
  | nil => exact cleanBut_piece (by rw [String.intercalate_nil]; decide)
  | @cons item text items texts first further inductionHypothesis =>
    cases further with
    | nil =>
      rw [String.intercalate_singleton, List.flatMap_cons, List.flatMap_nil, List.append_nil]
      exact first
    | cons next others =>
      have joined := (first.append plain).append inductionHypothesis
      rwa [List.append_nil, ← List.flatMap_cons, ← String.intercalate_cons_cons] at joined

theorem forall₂_cleanBut {step : Item → Except StatementError String}
    (written : items.mapM step = .ok texts)
    (clean : ∀ item ∈ items, ∀ text, step item = .ok text → CleanBut (names item) text) :
    List.Forall₂ (fun item text => CleanBut (names item) text) items texts := by
  have among := (List.forall₂_and_left (p := (· ∈ items)) items texts).mpr
    ⟨fun _ member => member, (mapM_eq_ok_iff step items texts).mp written⟩
  exact among.imp fun item text both => clean item both.1 text both.2

/-- The blank that a text gives up at its end is not part of a comment. -/
theorem CleanBut.dropFinalBlank {others : List String} {text : String}
    (clean : CleanBut others text) : CleanBut others (dropFinalBlank text) := by
  unfold SqlRecords.dropFinalBlank
  split
  case isFalse => exact clean
  case isTrue ends =>
    obtain ⟨start, split⟩ := List.getLast?_eq_some_iff.mp ends
    have leaves := clean.leaves
    rw [split, Place.after_append] at leaves
    have left := Place.eq_code_of_next_blank leaves
    have outside : Place.code.outside text.toList = Place.code.outside start ++ [' '] := by
      rw [split, Place.outside_append, left]
      rfl
    obtain ⟨-, slashless, lead, marks⟩ := clean
    rw [outside] at slashless lead marks
    rw [split, List.dropLast_concat]
    refine ⟨?_, ?_, ?_, ?_⟩ <;> rw [String.toList_ofList]
    · exact left
    · exact fun member => slashless (List.mem_append_left _ member)
    · exact minusesLead_of_blank lead
    · rw [← marks, List.mem_append, List.mem_singleton]
      exact (or_iff_left (by decide)).symm

theorem cleanBut_keys {others : List String} {text : String} (clean : CleanBut others text)
    (all : List.Forall₂ (fun item text => CleanBut (names item) text) items texts) :
    CleanBut (others ++ items.flatMap names) (texts.foldl appendKey text) := by
  induction all generalizing others text with
  | nil =>
    rw [List.flatMap_nil, List.append_nil]
    exact clean
  | @cons item key items keys first further inductionHypothesis =>
    have comma : CleanBut [] ", " := cleanBut_piece (by decide)
    have longer := (clean.dropFinalBlank.append comma).append first
    rw [List.append_nil] at longer
    rw [List.flatMap_cons, ← List.append_assoc, List.foldl_cons]
    exact inductionHypothesis longer

end Lists

theorem cleanBut_nameless {separator : String} (plain : CleanBut [] separator)
    {texts : List String} (all : ∀ text ∈ texts, CleanBut [] text) :
    CleanBut [] (separator.intercalate texts) := by
  have joined : CleanBut (texts.flatMap fun _ => []) (separator.intercalate texts) :=
    cleanBut_intercalate plain (List.forall₂_same.mpr all)
  rwa [List.flatMap_eq_nil_iff.mpr fun _ _ => rfl] at joined

/-! ### Expressions -/

theorem cleanBut_match {column : String} {value : Value} {text : String}
    (plain : IsPlainIdentifier column)
    (written : Dialect.mysql.matchText column value = .ok text) : CleanBut [column] text := by
  obtain ⟨literal, literalWritten, rfl⟩ := (map_eq_ok_iff _ _ _).mp written
  have sign : CleanBut [] "=" := cleanBut_piece (by decide)
  exact ((cleanBut_name plain).append sign).append (cleanBut_literal literalWritten)

theorem cleanBut_operator (operator : BinaryOperator) (nullRight : Bool) :
    CleanBut [] (operator.text nullRight) := by
  cases operator <;> cases nullRight <;> exact cleanBut_piece (by decide)

theorem cleanBut_expression {context : Context} {expression : Expression} {text : String}
    (plain : ∀ field ∈ expression.fields, IsPlainIdentifier (context.columnName field))
    (written : Dialect.mysql.expressionText context expression = .ok text) :
    CleanBut (expression.fields.map context.columnName) text := by
  induction expression generalizing text with
  | binary operator left right leftClean rightClean =>
    obtain ⟨leftPlain, rightPlain⟩ := List.forall_mem_append.mp plain
    rw [expressionText_binary] at written
    obtain ⟨first, firstWritten, further⟩ := (bind_eq_ok_iff _ _ _).mp written
    obtain ⟨second, secondWritten, equal⟩ := (bind_eq_ok_iff _ _ _).mp further
    cases equal
    have opening : CleanBut [] "(" := cleanBut_piece (by decide)
    have closing : CleanBut [] ")" := cleanBut_piece (by decide)
    have whole := opening.append ((leftClean leftPlain firstWritten).append
      ((cleanBut_operator operator right.isNullLiteral).append
        ((rightClean rightPlain secondWritten).append closing)))
    rw [Expression.fields, List.map_append]
    rwa [List.nil_append, List.nil_append, List.append_nil] at whole
  | negation operand operandClean =>
    rw [expressionText_negation] at written
    obtain ⟨inner, innerWritten, equal⟩ := (bind_eq_ok_iff _ _ _).mp written
    cases equal
    have word : CleanBut [] " NOT " := cleanBut_piece (by decide)
    exact word.append (operandClean plain innerWritten)
  | field name =>
    rw [expressionText_field] at written
    cases written
    exact cleanBut_name (plain name List.mem_cons_self)
  | literal value =>
    rw [expressionText_literal] at written
    exact cleanBut_literal written

end Mysql

/-! ### The columns that a statement names -/

/-- The expression of a clause, if it has one. -/
def Clause.expression? : Clause → Option Expression
  | filter predicate => some predicate
  | orderBy key | orderByDescending key => some key
  | limit _ | count => none

/-- The fields that a query names. -/
def Query.fields (query : Query) : List String :=
  (query.clauses.filterMap Clause.expression?).flatMap Expression.fields

/-- Whether a statement about a table is to be written, one in which expressions name only fields
of its records. -/
def WriterInput.IsStatement (table : Table) : WriterInput → Prop
  | query given =>
    given.source = table ∧
      ∀ field ∈ given.fields, ∃ column ∈ table.columns, column.field = field
  | insert other _ | update other _ | delete other _ => other = table
  | value _ _ | expression _ _ => False

/-- The columns that a statement names. -/
def WriterInput.namedColumns : WriterInput → List Column
  | query given => given.fields.filterMap given.source.column?
  | update table row =>
    (assignedCells table.columns row).map Prod.fst ++ (table.primaryKey?.map Prod.snd).toList
  | delete table _ => (table.primaryKey?.map Prod.snd).toList
  | insert _ _ | value _ _ | expression _ _ => []

namespace Mysql

section Statements

variable {table : Table} {row : List Value} {text : String}

theorem cleanBut_tuple (written : (Dialect.mysql.writeTuple table row).toText = .ok text) :
    CleanBut [] text := by
  rw [toText_writeTuple] at written
  obtain ⟨cells, cellsWritten, rfl⟩ := (map_eq_ok_iff _ _ _).mp written
  have opening : CleanBut [] "(" := cleanBut_piece (by decide)
  have closing : CleanBut [] ")" := cleanBut_piece (by decide)
  have comma : CleanBut [] "," := cleanBut_piece (by decide)
  refine (opening.append (cleanBut_nameless comma fun literal inside => ?_)).append closing
  obtain ⟨cell, member, cellWritten⟩ :=
    exists_mem_of_forall₂ ((mapM_eq_ok_iff _ _ _).mp cellsWritten) inside
  rw [toText_writeInserted _ _ (mapped_of_mem_storedCells member)] at cellWritten
  split at cellWritten
  · cases cellWritten
    exact cleanBut_piece (by decide)
  · exact cleanBut_literal cellWritten

theorem cleanBut_insert {rows : List (List Value)} (plainTable : IsPlainIdentifier table.name)
    (written : (Dialect.mysql.writeInsert table rows).toText = .ok text) :
    CleanBut [table.name] text := by
  obtain ⟨nonempty, -⟩ := (exists_toText_writeInsert_iff _ _ _).mp ⟨text, written⟩
  rw [toText_writeInsert _ _ nonempty] at written
  obtain ⟨tuples, tuplesWritten, rfl⟩ := (map_eq_ok_iff _ _ _).mp written
  have start : CleanBut [] "INSERT INTO " := cleanBut_piece (by decide)
  have values : CleanBut [] " VALUES " := cleanBut_piece (by decide)
  have comma : CleanBut [] "," := cleanBut_piece (by decide)
  refine ((start.append (cleanBut_name plainTable)).append values).append
    (cleanBut_nameless comma fun tuple member => ?_)
  obtain ⟨record, -, tupleWritten⟩ :=
    exists_mem_of_forall₂ ((mapM_eq_ok_iff _ _ _).mp tuplesWritten) member
  exact cleanBut_tuple tupleWritten

theorem cleanBut_condition {condition : String}
    (plainColumns : ∀ column ∈ table.columns, IsPlainIdentifier column.name)
    (picks : Dialect.mysql.PicksRecord table row condition) :
    CleanBut ((table.primaryKey?.map Prod.snd).toList.map Column.name) condition := by
  obtain ⟨position, column, value, key, -, written⟩ := picks
  rw [(primaryKey?_eq_some_iff table position column).mpr key]
  exact cleanBut_match (plainColumns column (List.mem_of_getElem? key.found)) written

theorem cleanBut_delete (plainTable : IsPlainIdentifier table.name)
    (plainColumns : ∀ column ∈ table.columns, IsPlainIdentifier column.name)
    (written : (Dialect.mysql.writeDelete table row).toText = .ok text) :
    CleanBut (table.name :: (table.primaryKey?.map Prod.snd).toList.map Column.name) text := by
  obtain ⟨condition, picks, rfl⟩ := (toText_writeDelete_eq_ok_iff _ _ _ _).mp written
  have start : CleanBut [] "DELETE FROM " := cleanBut_piece (by decide)
  have word : CleanBut [] " WHERE " := cleanBut_piece (by decide)
  exact ((start.append (cleanBut_name plainTable)).append word).append
    (cleanBut_condition plainColumns picks)

theorem cleanBut_update (plainTable : IsPlainIdentifier table.name)
    (plainColumns : ∀ column ∈ table.columns, IsPlainIdentifier column.name)
    (written : (Dialect.mysql.writeUpdate table row).toText = .ok text) :
    CleanBut (table.name :: ((assignedCells table.columns row).map Prod.fst ++
      (table.primaryKey?.map Prod.snd).toList).map Column.name) text := by
  obtain ⟨assignments, guard, -, assigned, guarded, rfl⟩ :=
    (toText_writeUpdate_eq_ok_iff _ _ _ _).mp written
  have start : CleanBut [] "UPDATE " := cleanBut_piece (by decide)
  have set : CleanBut [] " SET " := cleanBut_piece (by decide)
  have comma : CleanBut [] "," := cleanBut_piece (by decide)
  have behind : CleanBut ((table.primaryKey?.map Prod.snd).toList.map Column.name) guard := by
    rcases guarded with ⟨condition, picks, rfl⟩ | ⟨keyless, rfl⟩
    · have word : CleanBut [] " WHERE " := cleanBut_piece (by decide)
      exact word.append (cleanBut_condition plainColumns picks)
    · rw [(primaryKey?_eq_none_iff table).mpr keyless]
      exact cleanBut_piece (by decide)
  have list : CleanBut ((assignedCells table.columns row).flatMap fun cell => [cell.1.name])
      (",".intercalate assignments) := by
    refine cleanBut_intercalate comma (forall₂_cleanBut assigned fun cell member text => ?_)
    have inside := (List.of_mem_zip (List.mem_filter.mp member).1).1
    exact cleanBut_match (plainColumns cell.1 inside)
  have names : ((assignedCells table.columns row).flatMap fun cell => [cell.1.name]) =
      ((assignedCells table.columns row).map Prod.fst).map Column.name := by
    rw [List.map_map]
    exact List.flatMap_pure_eq_map (Column.name ∘ Prod.fst) _
  rw [names] at list
  rw [List.map_append]
  have whole := (((start.append (cleanBut_name plainTable)).append set).append list).append behind
  rwa [List.nil_append, List.append_nil] at whole

/-! ### Queries -/

theorem exists_column?_eq {field : String}
    (own : ∃ column ∈ table.columns, column.field = field) :
    ∃ column ∈ table.columns, table.column? field = some column := by
  obtain ⟨column, member, same⟩ := own
  obtain ⟨found, isFound⟩ : ∃ found, table.column? field = some found :=
    Option.isSome_iff_exists.mp (List.find?_isSome.mpr ⟨column, member, beq_iff_eq.mpr same⟩)
  exact ⟨found, List.mem_of_find?_eq_some isFound, isFound⟩

theorem map_name_filterMap_column? {fields : List String}
    (own : ∀ field ∈ fields, ∃ column ∈ table.columns, column.field = field) :
    (fields.filterMap table.column?).map Column.name = fields.map table.columnName := by
  induction fields with
  | nil => rfl
  | cons field rest inductionHypothesis =>
    obtain ⟨first, further⟩ := List.forall_mem_cons.mp own
    obtain ⟨column, -, found⟩ := exists_column?_eq first
    rw [List.filterMap_cons_some found, List.map_cons, List.map_cons, inductionHypothesis further,
      Table.columnName, found]

theorem isPlainIdentifier_columnName {field : String}
    (plainColumns : ∀ column ∈ table.columns, IsPlainIdentifier column.name)
    (own : ∃ column ∈ table.columns, column.field = field) :
    IsPlainIdentifier (table.columnName field) := by
  obtain ⟨column, member, found⟩ := exists_column?_eq own
  rw [Table.columnName, found]
  exact plainColumns column member

theorem cleanBut_selectStart {query : Query} (plainTable : IsPlainIdentifier query.source.name) :
    CleanBut [query.source.name] query.selectStart := by
  have start : CleanBut []
      (if Clause.count ∈ query.clauses then "SELECT COUNT(*)" else "SELECT *") := by
    split <;> exact cleanBut_piece (by decide)
  have source : CleanBut [] " FROM " := cleanBut_piece (by decide)
  exact (start.append source).append (cleanBut_name plainTable)

theorem cleanBut_where {names : Expression → List String} {predicates : List Expression}
    {texts : List String}
    (all : List.Forall₂ (fun predicate text => CleanBut (names predicate) text) predicates texts) :
    CleanBut (predicates.flatMap names) (whereText texts) := by
  have word : CleanBut [] " WHERE " := cleanBut_piece (by decide)
  have between : CleanBut [] " AND " := cleanBut_piece (by decide)
  have joined := word.append (cleanBut_intercalate between all)
  cases all with
  | nil => exact cleanBut_piece (by decide)
  | cons first further => exact joined

theorem cleanBut_order {names : SortKey → List String} {keys : List SortKey} {texts : List String}
    (all : List.Forall₂ (fun key text => CleanBut (names key) text) keys texts) :
    CleanBut (keys.flatMap names) (orderText texts) := by
  have word : CleanBut [] " ORDER BY " := cleanBut_piece (by decide)
  cases all with
  | nil => exact cleanBut_piece (by decide)
  | cons first further => exact cleanBut_keys (word.append first) further

theorem cleanBut_limit (limit : Option Nat) : CleanBut [] (limitText limit) := by
  cases limit with
  | none => exact cleanBut_piece (by decide)
  | some count =>
    have word : CleanBut [] " LIMIT " := cleanBut_piece (by decide)
    exact word.append (cleanBut_number (.mk false (isUnsigned_toDigits count)))

theorem cleanBut_key {key : SortKey}
    (plain : ∀ field ∈ key.expression.fields, IsPlainIdentifier (table.columnName field))
    (written : Dialect.mysql.keyText table key = .ok text) :
    CleanBut (key.expression.fields.map table.columnName) text := by
  obtain ⟨expression, expressionWritten, rfl⟩ := (map_eq_ok_iff _ _ _).mp written
  have clean := cleanBut_expression plain expressionWritten
  split
  · have word : CleanBut [] " DESC " := cleanBut_piece (by decide)
    have marked := clean.append word
    rwa [List.append_nil] at marked
  · exact clean

/-- Only filters and sort keys name fields. -/
theorem fields_of_ordered {query : Query} {ordered : SelectClauses}
    (filtered : query.clauses.filter (!·.isCount) = ordered.toList) :
    query.fields = ordered.predicates.flatMap Expression.fields ++
      ordered.keys.flatMap fun key => key.expression.fields := by
  have uncounted : query.clauses.filterMap Clause.expression? =
      (query.clauses.filter (!·.isCount)).filterMap Clause.expression? := by
    rw [List.filterMap_filter]
    refine List.filterMap_congr fun clause _ => ?_
    cases clause <;> rfl
  have keys : (ordered.keys.map SortKey.clause).filterMap Clause.expression? =
      ordered.keys.map SortKey.expression := by
    rw [List.filterMap_map, ← List.filterMap_eq_map]
    refine List.filterMap_congr fun key _ => ?_
    obtain ⟨expression, descending⟩ := key
    cases descending <;> rfl
  have limit : (ordered.limit.toList.map Clause.limit).filterMap Clause.expression? = [] := by
    cases ordered.limit <;> rfl
  have predicates : (ordered.predicates.map Clause.filter).filterMap Clause.expression? =
      ordered.predicates := by
    rw [List.filterMap_map]
    exact List.filterMap_some
  rw [Query.fields, uncounted, filtered, SelectClauses.toList, List.filterMap_append,
    List.filterMap_append, predicates, keys, limit, List.append_nil, List.flatMap_append,
    List.flatMap_map]

theorem cleanBut_query {query : Query} (plainTable : IsPlainIdentifier query.source.name)
    (plainColumns : ∀ column ∈ query.source.columns, IsPlainIdentifier column.name)
    (own : ∀ field ∈ query.fields, ∃ column ∈ query.source.columns, column.field = field)
    (written : (Dialect.mysql.writeQuery query).toText = .ok text) :
    CleanBut (query.source.name ::
      (query.fields.filterMap query.source.column?).map Column.name) text := by
  obtain ⟨ordered, predicates, keys, filtered, predicatesWritten, keysWritten, rfl⟩ :=
    (toText_writeQuery_eq_ok_iff _ _ _).mp written
  rw [map_name_filterMap_column? own]
  have plainField : ∀ field ∈ query.fields, IsPlainIdentifier (query.source.columnName field) :=
    fun field member => isPlainIdentifier_columnName plainColumns (own field member)
  rw [fields_of_ordered filtered] at plainField ⊢
  obtain ⟨plainPredicates, plainKeys⟩ := List.forall_mem_append.mp plainField
  have filters := cleanBut_where (forall₂_cleanBut predicatesWritten
    fun predicate member text => cleanBut_expression fun field inside =>
      plainPredicates field (List.mem_flatMap_of_mem member inside))
  have order := cleanBut_order (forall₂_cleanBut keysWritten
    fun key member text => cleanBut_key fun field inside =>
      plainKeys field (List.mem_flatMap_of_mem member inside))
  have whole := (cleanBut_selectStart plainTable).append
    ((filters.append order).append (cleanBut_limit ordered.limit))
  rw [List.map_append, List.map_flatMap, List.map_flatMap]
  rwa [List.append_nil] at whole

/-! ### All statements -/

/-- A statement about a table whose names are plain begins a comment at the number signs in the
names that it has, and nowhere else. -/
theorem cleanBut_statement {input : WriterInput} (about : input.IsStatement table)
    (plainTable : IsPlainIdentifier table.name)
    (plainColumns : ∀ column ∈ table.columns, IsPlainIdentifier column.name)
    (written : (input.write .mysql).toText = .ok text) :
    CleanBut (table.name :: input.namedColumns.map Column.name) text := by
  cases input with
  | value context value => exact about.elim
  | expression context expression => exact about.elim
  | query query =>
    obtain ⟨rfl, own⟩ := about
    exact cleanBut_query plainTable plainColumns own written
  | insert other rows =>
    cases about
    exact cleanBut_insert plainTable written
  | update other row =>
    cases about
    exact cleanBut_update plainTable plainColumns written
  | delete other row =>
    cases about
    exact cleanBut_delete plainTable plainColumns written

end Statements

end Mysql

end SqlRecords
