/-
This file proves that a literal is one piece of a condition: every value that has a literal is
written as a word that cannot be mistaken for part of the language, or as a string that ends
where it should.

Numbers are words of digits, a point, an exponent and minus signs, and begin with a digit or a
minus; truth values are two words of their own. Everything else stands between quotes. Texts are
escaped there, and what is written for dates, times and identifiers has nothing to escape.
-/

import SqlRecords.Proofs.Number.DecimalText
import SqlRecords.Proofs.Sql.ConditionReader
import SqlRecords.Proofs.Text.Digits
import SqlRecords.Proofs.UuidText

namespace SqlRecords

/-! ### Numbers -/

/-- Whether a character belongs to numbers. -/
def isNumberCharacter (character : Char) : Bool :=
  character.isDigit || character == '.' || character == '-' || character == 'e'

/-- The words of numbers: digits and the signs of numbers, of which a digit or a minus comes
first. -/
structure IsNumberWord (word : List Char) : Prop where
  characters : ∀ character ∈ word, isNumberCharacter character = true
  first : ∃ first ∈ word.head?, first.isDigit = true ∨ first = '-'

theorem isNumberCharacter_of_isDigit {character : Char} (digit : character.isDigit = true) :
    isNumberCharacter character = true := by
  simp [isNumberCharacter, digit]

theorem isNumberCharacter_of_mem_fraction {digits : List Char}
    (allDigits : ∀ character ∈ digits, character.isDigit = true) :
    ∀ character ∈ '.' :: digits, isNumberCharacter character = true := by
  rw [List.forall_mem_cons]
  exact ⟨rfl, fun character digit => isNumberCharacter_of_isDigit (allDigits character digit)⟩

theorem isWordCharacter_of_isNumberCharacter {character : Char}
    (inside : isNumberCharacter character = true) : isWordCharacter character = true := by
  simp only [isNumberCharacter, Bool.or_eq_true, beq_iff_eq] at inside
  rcases inside with ((digit | rfl) | rfl) | rfl
  · simp [isWordCharacter, isNameCharacter, Char.isAlphanum, digit]
  all_goals rfl

theorem toUpper_of_isDigit {character : Char} (digit : character.isDigit = true) :
    character.toUpper = character := by
  unfold Char.toUpper
  rw [dif_neg]
  rintro ⟨lower, -⟩
  simp only [Char.isDigit, Bool.and_eq_true, decide_eq_true_eq] at digit
  exact absurd (UInt32.le_trans lower digit.2) (by decide)

/-- A word means something only if it begins with one of five letters. -/
theorem keyword?_eq_none (first : Char) (rest : List Char)
    (other : first.toUpper ∉ ['A', 'O', 'N', 'I', 'L']) : keyword? (first :: rest) = none := by
  unfold keyword?
  rw [List.lookup_eq_none_iff]
  intro entry member
  rw [bne_iff_ne]
  intro equal
  refine other ?_
  have start : entry.1.head? = some first.toUpper := by rw [← equal]; rfl
  have letters : keywords.all fun entry =>
      entry.1.head?.all fun letter => decide (letter ∈ ['A', 'O', 'N', 'I', 'L']) := by decide
  have letter := List.all_eq_true.mp letters entry member
  rw [start] at letter
  exact of_decide_eq_true letter

theorem isLeaf_of_isNumberWord (dialect : Dialect) {word : List Char} (number : IsNumberWord word) :
    dialect.IsLeaf (String.ofList word) := by
  obtain ⟨first, start, begins⟩ := number.first
  obtain ⟨rest, rfl⟩ := List.head?_eq_some_iff.mp start
  refine .word _ ?_ ?_ ?_
  · rw [String.toList_ofList]
    exact List.cons_ne_nil _ _
  · rw [String.toList_ofList, List.all_eq_true]
    exact fun character member =>
      isWordCharacter_of_isNumberCharacter (number.characters character member)
  · rw [String.toList_ofList]
    refine keyword?_eq_none first rest ?_
    rcases begins with digit | rfl
    · rw [toUpper_of_isDigit digit]
      intro letter
      simp only [List.mem_cons, List.not_mem_nil, or_false] at letter
      rcases letter with rfl | rfl | rfl | rfl | rfl <;> exact absurd digit (by decide)
    · decide

/-- A word of digits with further characters of numbers behind them. -/
theorem isNumberWord_digits {digits further : List Char} (nonempty : digits ≠ [])
    (allDigits : ∀ character ∈ digits, character.isDigit = true)
    (inside : ∀ character ∈ further, isNumberCharacter character = true) :
    IsNumberWord (digits ++ further) := by
  refine ⟨fun character member => ?_, ?_⟩
  · rcases List.mem_append.mp member with digit | other
    · exact isNumberCharacter_of_isDigit (allDigits character digit)
    · exact inside character other
  · cases digits with
    | nil => exact absurd rfl nonempty
    | cons first rest => exact ⟨first, rfl, Or.inl (allDigits first List.mem_cons_self)⟩

theorem isNumberWord_signed (negative : Bool) {word : List Char} (number : IsNumberWord word) :
    IsNumberWord ((if negative then ['-'] else []) ++ word) := by
  cases negative with
  | false => exact number
  | true =>
    refine ⟨fun character member => ?_, '-', rfl, Or.inr rfl⟩
    rcases List.mem_cons.mp member with rfl | inside
    · rfl
    · exact number.characters character inside

theorem isNumberWord_intText (value : Int) : IsNumberWord (Integer.intText value) := by
  have digits : IsNumberWord (Nat.toDigits 10 value.natAbs ++ []) :=
    isNumberWord_digits Nat.toDigits_ne_nil (fun _ => isDigit_of_mem_toDigits) (by simp)
  rw [List.append_nil] at digits
  unfold Integer.intText
  split
  · exact isNumberWord_signed true digits
  · exact digits

/-! ### How numbers are written -/

/-- What stands behind the whole digits of a number: nothing, or a point and digits. -/
inductive IsFraction : List Char → Prop
  | none : IsFraction []
  | point {digits : List Char} (allDigits : ∀ character ∈ digits, character.isDigit = true) :
    IsFraction ('.' :: digits)

/-- What ends a number: nothing, or an exponent. -/
inductive IsExponent : List Char → Prop
  | none : IsExponent []
  | power (value : Int) : IsExponent ('e' :: Integer.intText value)

/-- The words of numbers without a sign in front. -/
inductive IsUnsigned : List Char → Prop
  | mk {whole fraction exponent : List Char} (nonempty : whole ≠ [])
    (allDigits : ∀ character ∈ whole, character.isDigit = true)
    (isFraction : IsFraction fraction) (isExponent : IsExponent exponent) :
    IsUnsigned (whole ++ (fraction ++ exponent))

/-- The words of numbers. -/
inductive IsSigned : List Char → Prop
  | mk (negative : Bool) {word : List Char} (number : IsUnsigned word) :
    IsSigned ((if negative then ['-'] else []) ++ word)

theorem isUnsigned_fraction {whole fraction : List Char} (nonempty : whole ≠ [])
    (allDigits : ∀ character ∈ whole, character.isDigit = true)
    (isFraction : IsFraction fraction) : IsUnsigned (whole ++ fraction) := by
  rw [← List.append_nil fraction]
  exact .mk nonempty allDigits isFraction .none

theorem isUnsigned_toDigits (number : Nat) : IsUnsigned (Nat.toDigits 10 number) := by
  rw [← List.append_nil (Nat.toDigits 10 number)]
  exact isUnsigned_fraction Nat.toDigits_ne_nil (fun _ => isDigit_of_mem_toDigits) .none

theorem isSigned_intText (value : Int) : IsSigned (Integer.intText value) := by
  have digits := isUnsigned_toDigits value.natAbs
  unfold Integer.intText
  split
  · exact .mk true digits
  · exact .mk false digits

theorem isSigned_decimal (decimal : Decimal) : IsSigned decimal.characters := by
  obtain ⟨whole, fraction, nonempty, -, all, text⟩ := decimal.exists_characters_eq
  have allDigits : ∀ digit ∈ whole ++ fraction, digit.isDigit = true := by
    rw [all]
    exact fun digit => isDigit_of_mem_zeroPadded
  obtain ⟨before, behind⟩ := List.forall_mem_append.mp allDigits
  rw [text]
  refine .mk _ (isUnsigned_fraction nonempty before ?_)
  split
  · exact .none
  · exact .point behind

section Floating

variable {digits : List Char} (position : Int) (nonempty : digits ≠ [])
  (allDigits : ∀ character ∈ digits, character.isDigit = true)

include nonempty allDigits

theorem isUnsigned_positional (keepsPoint : Bool) :
    IsUnsigned (Floating.positional keepsPoint digits position) := by
  unfold Floating.positional
  split
  · rw [List.append_assoc]
    show IsUnsigned (['0'] ++ '.' :: (List.replicate (-position).toNat '0' ++ digits))
    refine isUnsigned_fraction (List.cons_ne_nil _ _) (List.forall_mem_singleton.mpr rfl)
      (.point ?_)
    rw [List.forall_mem_append]
    exact ⟨fun _ => isDigit_of_mem_zeros, allDigits⟩
  split
  · refine isUnsigned_fraction (List.append_ne_nil_of_left_ne_nil nonempty _) ?_ ?_
    · rw [List.forall_mem_append]
      exact ⟨allDigits, fun _ => isDigit_of_mem_zeros⟩
    · cases keepsPoint with
      | false => exact .none
      | true => exact .point (List.forall_mem_singleton.mpr rfl)
  · rw [List.append_assoc]
    refine isUnsigned_fraction ?_
      (fun character member => allDigits character (List.mem_of_mem_take member))
      (.point fun character member => allDigits character (List.mem_of_mem_drop member))
    rw [ne_eq, List.take_eq_nil_iff]
    rintro (none | rfl)
    · omega
    · exact nonempty rfl

theorem isUnsigned_scientific : IsUnsigned (Floating.scientific digits position) := by
  unfold Floating.scientific
  rw [List.append_assoc, List.append_assoc]
  refine .mk ?_ (fun character member => allDigits character (List.mem_of_mem_take member)) ?_
    (.power _)
  · rw [ne_eq, List.take_eq_nil_iff]
    rintro (none | rfl)
    · cases none
    · exact nonempty rfl
  · split
    · exact .none
    · exact .point fun character member => allDigits character (List.mem_of_mem_drop member)

end Floating

theorem isSigned_floating {precision : Precision} (number : Floating precision)
    (finite : number.isFinite = true) (layout : Floating.Layout) :
    IsSigned (number.characters layout) := by
  obtain ⟨negative, mantissa, power, meaning⟩ :
      ∃ negative mantissa power, number.meaning = .finite negative mantissa power := by
    unfold Floating.meaning
    rw [if_neg (bne_iff_ne.mp finite)]
    split <;> exact ⟨_, _, _, rfl⟩
  unfold Floating.characters
  rw [meaning]
  refine .mk negative ?_
  split
  · exact isUnsigned_positional _ (List.cons_ne_nil _ _) (List.forall_mem_singleton.mpr rfl) _
  · unfold Floating.Layout.arrange
    dsimp only
    split
    · split
      · exact isUnsigned_positional _ Nat.toDigits_ne_nil (fun _ => isDigit_of_mem_toDigits) _
      · exact isUnsigned_scientific _ Nat.toDigits_ne_nil fun _ => isDigit_of_mem_toDigits
    · exact isUnsigned_positional _ Nat.toDigits_ne_nil (fun _ => isDigit_of_mem_toDigits) _

theorem isNumberWord_of_isSigned {word : List Char} (signed : IsSigned word) :
    IsNumberWord word := by
  obtain ⟨negative, ⟨nonempty, allDigits, isFraction, isExponent⟩⟩ := signed
  refine isNumberWord_signed negative (isNumberWord_digits nonempty allDigits ?_)
  rw [List.forall_mem_append]
  constructor
  · cases isFraction with
    | none => exact List.forall_mem_nil _
    | point behind => exact isNumberCharacter_of_mem_fraction behind
  · cases isExponent with
    | none => exact List.forall_mem_nil _
    | power value =>
      rw [List.forall_mem_cons]
      exact ⟨rfl, (isNumberWord_intText value).characters⟩

/-! ### The texts of literals -/

/-- The texts of literals that are no null: the words of truth values and of numbers, and
strings. -/
inductive Dialect.IsLiteral (dialect : Dialect) : String → Prop where
  | truth (content : Bool) : IsLiteral dialect (booleanLiteral false content)
  | number (word : List Char) (number : IsNumberWord word) : IsLiteral dialect (String.ofList word)
  | string (content : String) : IsLiteral dialect (dialect.stringLiteral content)

/-- The texts of literals that are no null, as they are written. What is neither a truth value nor a
number is a string. -/
inductive Dialect.IsContentLiteral (dialect : Dialect) : String → Prop where
  | truth (forKey content : Bool) : IsContentLiteral dialect (booleanLiteral forKey content)
  | number {word : List Char} (signed : IsSigned word) :
    IsContentLiteral dialect (String.ofList word)
  | string (content : String) : IsContentLiteral dialect (dialect.stringLiteral content)

theorem isLeaf_of_isLiteral {dialect : Dialect} {text : String}
    (literal : dialect.IsLiteral text) : dialect.IsLeaf text := by
  cases literal with
  | truth content => cases content <;> exact .word _ (by decide) (by decide) (by decide)
  | number word number => exact isLeaf_of_isNumberWord dialect number
  | string content => exact .string content

/-! ### Quoted texts without anything to escape -/

theorem flatMap_escape_of_plain (dialect : Dialect) (inner : List Char)
    (plain : ∀ character ∈ inner, character ≠ '\'' ∧ character ≠ '\\') :
    inner.flatMap dialect.escape = inner := by
  induction inner with
  | nil => rfl
  | cons character rest inductionHypothesis =>
    obtain ⟨notQuote, notBackslash⟩ := plain character List.mem_cons_self
    rw [List.flatMap_cons, escape_of_plain dialect character notQuote notBackslash,
      List.singleton_append,
      inductionHypothesis fun other member => plain other (List.mem_cons_of_mem _ member)]

theorem isContentLiteral_quoted (dialect : Dialect) (inner : List Char)
    (plain : ∀ character ∈ inner, character ≠ '\'' ∧ character ≠ '\\') :
    dialect.IsContentLiteral (String.ofList (['\''] ++ inner ++ ['\''])) := by
  have literal : dialect.stringLiteral (String.ofList inner) =
      String.ofList (['\''] ++ inner ++ ['\'']) := by
    rw [Dialect.stringLiteral, String.toList_ofList, flatMap_escape_of_plain dialect inner plain]
  rw [← literal]
  exact .string _

/-- The characters of dates, times and identifiers. -/
def isUnescaped (character : Char) : Bool :=
  character.isAlphanum || character == '-' || character == ':' || character == ' '

theorem plain_of_isUnescaped {character : Char} (unescaped : isUnescaped character = true) :
    character ≠ '\'' ∧ character ≠ '\\' := by
  constructor <;> rintro rfl <;> exact absurd unescaped (by decide)

theorem isUnescaped_of_isDigit {character : Char} (digit : character.isDigit = true) :
    isUnescaped character = true := by
  simp [isUnescaped, Char.isAlphanum, digit]

theorem isUnescaped_of_mem_zeroPadded {width number : Nat} {character : Char}
    (member : character ∈ Text.zeroPadded width number) : isUnescaped character = true :=
  isUnescaped_of_isDigit (isDigit_of_mem_zeroPadded member)

theorem isUnescaped_of_mem_minuteLiteral {time : Time} {character : Char}
    (member : character ∈ minuteLiteral time) : isUnescaped character = true := by
  simp only [minuteLiteral, List.mem_append, List.mem_singleton] at member
  rcases member with (digit | rfl) | digit
  · exact isUnescaped_of_mem_zeroPadded digit
  · rfl
  · exact isUnescaped_of_mem_zeroPadded digit

theorem isUnescaped_of_mem_yearLiteral {year : Int} {character : Char}
    (member : character ∈ yearLiteral year) : isUnescaped character = true := by
  unfold yearLiteral at member
  split at member
  · rcases List.mem_cons.mp member with rfl | digit
    · rfl
    · exact isUnescaped_of_mem_zeroPadded digit
  · exact isUnescaped_of_mem_zeroPadded member

theorem isContentLiteral_timeLiteral (dialect : Dialect) (time : Time) :
    dialect.IsContentLiteral (timeLiteral time) :=
  isContentLiteral_quoted dialect _ fun _ member =>
    plain_of_isUnescaped (isUnescaped_of_mem_minuteLiteral member)

theorem isContentLiteral_dateTimeLiteral (dialect : Dialect) (forKey : Bool) (dateTime : DateTime) :
    dialect.IsContentLiteral (dateTimeLiteral forKey dateTime) := by
  have grouped : dateTimeLiteral forKey dateTime =
      String.ofList (['\''] ++ (yearLiteral dateTime.date.year ++ ['-'] ++
        Text.zeroPadded 2 dateTime.date.month ++ ['-'] ++ Text.zeroPadded 2 dateTime.date.day ++
        (if forKey then [] else ' ' :: minuteLiteral dateTime.time)) ++ ['\'']) := by
    simp only [dateTimeLiteral, List.append_assoc]
  rw [grouped]
  refine isContentLiteral_quoted dialect _ fun character member => plain_of_isUnescaped ?_
  simp only [List.mem_append, List.mem_singleton] at member
  rcases member with ((((year | rfl) | digit) | rfl) | digit) | time
  · exact isUnescaped_of_mem_yearLiteral year
  · rfl
  · exact isUnescaped_of_mem_zeroPadded digit
  · rfl
  · exact isUnescaped_of_mem_zeroPadded digit
  · cases forKey with
    | true => cases time
    | false =>
      rcases List.mem_cons.mp time with rfl | minute
      · rfl
      · exact isUnescaped_of_mem_minuteLiteral minute

theorem isContentLiteral_uuidLiteral (dialect : Dialect) (uuid : Uuid) :
    dialect.IsContentLiteral ("'" ++ uuid.text ++ "'") := by
  have characters : "'" ++ uuid.text ++ "'" =
      String.ofList (['\''] ++ uuid.characters ++ ['\'']) := by
    rw [String.ofList_append, String.ofList_append]
    rfl
  rw [characters]
  have unescaped : ∀ character ∈ uuid.characters, isUnescaped character = true :=
    uuid.forall_mem_characters (by decide) (by decide)
  exact isContentLiteral_quoted dialect _ fun character member =>
    plain_of_isUnescaped (unescaped character member)

/-! ### Literals -/

theorem literal_of_isNull (dialect : Dialect) (forKey : Bool) (value : Value)
    (null : value.isNull = true) : dialect.literal forKey value = .ok "NULL" := by
  unfold Dialect.literal
  rw [if_pos null]

/-- What the literal of a value that is no null can be. -/
theorem isContentLiteral_literal (dialect : Dialect) (forKey : Bool) (value : Value) (text : String)
    (content : value.isNull = false) (written : dialect.literal forKey value = .ok text) :
    dialect.IsContentLiteral text := by
  unfold Dialect.literal at written
  simp only [content, Bool.false_eq_true, if_false] at written
  split at written
  case h_1 truth =>
    cases written
    exact .truth forKey truth
  case h_2 kind number =>
    cases written
    exact .number (isSigned_intText number.value)
  case h_3 precision number =>
    split at written
    case isTrue finite =>
      cases written
      exact .number (isSigned_floating number finite _)
    case isFalse => cases written
  case h_4 number =>
    cases written
    exact .number (isSigned_decimal number)
  case h_5 inner =>
    cases written
    exact .string inner
  case h_6 date =>
    cases written
    exact isContentLiteral_dateTimeLiteral dialect forKey date.midnight
  case h_7 time =>
    cases written
    exact isContentLiteral_timeLiteral dialect time
  case h_8 dateTime =>
    cases written
    exact isContentLiteral_dateTimeLiteral dialect forKey dateTime
  case h_9 moment =>
    split at written
    case h_1 dateTime _ =>
      cases written
      exact isContentLiteral_dateTimeLiteral dialect forKey dateTime
    case h_2 => cases written
  case h_10 uuid =>
    cases written
    exact isContentLiteral_uuidLiteral dialect uuid
  case h_11 => cases written

theorem isLiteral_booleanLiteral (dialect : Dialect) (forKey content : Bool) :
    dialect.IsLiteral (booleanLiteral forKey content) := by
  cases forKey with
  | false => exact .truth content
  | true =>
    cases content with
    | false => exact .number ['0'] ⟨List.forall_mem_singleton.mpr rfl, '0', rfl, Or.inl rfl⟩
    | true => exact .number ['1'] ⟨List.forall_mem_singleton.mpr rfl, '1', rfl, Or.inl rfl⟩

theorem isLiteral_of_isContentLiteral {dialect : Dialect} {text : String}
    (literal : dialect.IsContentLiteral text) : dialect.IsLiteral text := by
  cases literal with
  | truth forKey content => exact isLiteral_booleanLiteral dialect forKey content
  | number signed => exact .number _ (isNumberWord_of_isSigned signed)
  | string content => exact .string content

/-- The literal of a value that is no null is a word of its own or a string. -/
theorem isLiteral_literal (dialect : Dialect) (forKey : Bool) (value : Value) (text : String)
    (content : value.isNull = false) (written : dialect.literal forKey value = .ok text) :
    dialect.IsLiteral text :=
  isLiteral_of_isContentLiteral (isContentLiteral_literal dialect forKey value text content written)

/-- The literal of a value that is no null is a leaf. -/
theorem isLeaf_literal (dialect : Dialect) (forKey : Bool) (value : Value) (text : String)
    (content : value.isNull = false) (written : dialect.literal forKey value = .ok text) :
    dialect.IsLeaf text :=
  isLeaf_of_isLiteral (isLiteral_literal dialect forKey value text content written)

theorem ne_empty_of_isLeaf {dialect : Dialect} {text : String} (leaf : dialect.IsLeaf text) :
    text ≠ "" := by
  intro empty
  cases leaf with
  | word _ nonempty => exact nonempty (String.toList_eq_nil_iff.mpr empty)
  | string content =>
    have characters := congrArg String.toList empty
    rw [toList_stringLiteral] at characters
    cases characters

theorem literal_ne_empty {dialect : Dialect} {forKey : Bool} {value : Value} {text : String}
    (written : dialect.literal forKey value = .ok text) : text ≠ "" := by
  cases null : value.isNull with
  | true =>
    rw [literal_of_isNull dialect forKey value null] at written
    cases written
    decide
  | false => exact ne_empty_of_isLeaf (isLeaf_literal dialect forKey value text null written)

/-! ### Values that have literals -/

/-- Whether a value is of a kind that has literals: a null, or anything but bytes and floating
point numbers that are not finite. -/
def Value.isRenderable : Value → Bool
  | .blob (some _) => false
  | .floating _ (some number) => number.isFinite
  | _ => true

/-- Whether the instant that a value denotes, if it denotes one, has a date in universal time. -/
def Value.hasUniversalDate : Value → Bool
  | .zoned (some moment) => moment.utc?.isSome
  | _ => true

/-- A value has a literal exactly if it is of a kind that has literals and its date, if it has
to be changed to universal time, exists there. -/
theorem exists_literal_iff (dialect : Dialect) (forKey : Bool) (value : Value) :
    (∃ text, dialect.literal forKey value = .ok text) ↔
      value.isRenderable = true ∧ value.hasUniversalDate = true := by
  unfold Dialect.literal Value.isRenderable Value.hasUniversalDate
  cases value with
  | null => simp [Value.isNull]
  | floating precision content =>
    cases content with
    | none => simp [Value.isNull]
    | some number => cases finite : number.isFinite <;> simp [Value.isNull, finite]
  | zoned content =>
    cases content with
    | none => simp [Value.isNull]
    | some moment => cases date : moment.utc? <;> simp [Value.isNull, date]
  | _ =>
    rename_i content
    cases content <;> simp [Value.isNull]

end SqlRecords
