/-
This file says what is read back from a literal. Truth values, numbers, identifiers and dates come
back whole. A time comes back to the minute; so does a date-time, or to its day where the literal
is for a key; and a zoned date-time comes back as its universal date-time cut in the same way.
Nothing else is lost: contents with one literal agree in what the literal keeps of them, even if
the one literal was written in a statement of another kind than the other.

What is lost is cut off before the literal is written, so reading back is shown for the cut
content, through the text that a date-time prints. Decimals are the exception: their text keeps
a zero without its sign, which is the same number.
-/

import SqlRecords.Proofs.Value.PrintedMoment
import SqlRecords.Proofs.Value.ShownText
import SqlRecords.Proofs.Value.ZonedInstant

namespace SqlRecords

open Calendar (Detail Prints Wraps)

/-! ### What a literal keeps -/

/-- Whether the literals of a place are for a key: those that assign the columns of an update and
those that its condition or that of a deletion compares with. -/
def Context.isForKey (context : Context) : Bool :=
  [Fragment.updateSet, .updateWhere, .deleteFromWhere].contains context.fragment

theorem Context.isKeyAssignment_eq (context : Context) :
    context.fragment.isKeyAssignment = context.isForKey := by
  obtain ⟨fragment, table⟩ := context
  cases fragment <;> rfl

/-- A date-time without what its literal does not say: the day for a key, the minute otherwise. -/
def DateTime.cut (forKey : Bool) (moment : DateTime) : DateTime :=
  if forKey then moment.date.midnight else ⟨moment.date, Detail.minute.cut moment.time⟩

namespace ScalarType

/-- The types whose literals are read back. Bytes have no literals; those of texts and floating
point numbers are left out. -/
def isReadBack : ScalarType → Bool
  | floating _ | text | character | fixedBytes | bytes => false
  | _ => true

/-- Whether a content has no year, or a universal one that is written without a sign. -/
def hasPlainYear : (type : ScalarType) → type.Content → Bool
  | date, content => 0 ≤ content.year
  | timestamp, content => 0 ≤ content.date.year
  | zoned, content => content.utc?.any fun moment => 0 ≤ moment.date.year
  | _, _ => true

/-- A content without what its literal does not say. -/
def cut (forKey : Bool) : (type : ScalarType) → type.Content → type.Content
  | time, content => Detail.minute.cut content
  | timestamp, content => content.cut forKey
  | zoned, content =>
    match content.utc? with
    | some moment => .universal (moment.cut forKey)
    | none => content
  | _, content => content

/-- A text without its first and its last character. -/
def withoutQuotes (text : String) : String :=
  String.ofList (text.toList.drop 1).dropLast

/-- Reads a content from its literal. The text of an identifier stands inside the quotes. -/
def readLiteral : (type : ScalarType) → String → Except ConversionError type.Content
  | uuid, literal => uuid.parse (withoutQuotes literal)
  | type, literal => type.parse literal

theorem withoutQuotes_quoted (text : String) : withoutQuotes ("'" ++ text ++ "'") = text := by
  unfold withoutQuotes
  rw [String.toList_append, String.toList_append]
  show String.ofList (text.toList ++ ['\'']).dropLast = text
  rw [List.dropLast_concat, String.ofList_toList]

/-! ### Literals of dates and times -/

theorem wraps_quoted (inner : List Char) :
    Wraps inner (String.ofList (['\''] ++ inner ++ ['\''])).toList := by
  have none : ∀ character ∈ ([] : List Char), Text.isBlank character = true :=
    fun _ member => nomatch member
  have quote : ∀ character ∈ ['\''], Calendar.isQuote character = true :=
    List.forall_mem_singleton.mpr rfl
  have wraps : Wraps inner ([] ++ (['\''] ++ inner ++ ['\'']) ++ []) :=
    .around none quote quote none
  rwa [String.toList_ofList, ← List.append_nil (_ ++ _), ← List.nil_append (_ ++ _)]

/-- The literal of a date-time is a printed text of it in quotes. -/
theorem exists_prints_dateTimeLiteral (forKey : Bool) {moment : DateTime}
    (plain : 0 ≤ moment.date.year) :
    ∃ inner, Prints moment inner (moment.cut forKey) ∧
      Wraps inner (dateTimeLiteral forKey moment).toList := by
  have noSign : ¬ moment.date.year < 0 := Int.not_lt.mpr plain
  have day : yearLiteral moment.date.year ++ ['-'] ++ Text.zeroPadded 2 moment.date.month ++
      ['-'] ++ Text.zeroPadded 2 moment.date.day = moment.date.characters := by
    unfold yearLiteral Date.characters
    rw [if_neg noSign, if_neg noSign, List.nil_append]
  cases forKey with
  | true =>
    refine ⟨_, .date, ?_⟩
    have wraps := wraps_quoted moment.date.characters
    rw [← day] at wraps ⊢
    simpa [dateTimeLiteral] using wraps
  | false =>
    refine ⟨_, .dateTime ' ' (by decide) .minute, ?_⟩
    have wraps := wraps_quoted
      (moment.date.characters ++ [' '] ++ Detail.minute.text moment.time)
    rw [← day] at wraps ⊢
    simpa [dateTimeLiteral, minuteLiteral, Detail.text] using wraps

theorem parse_dateTimeLiteral (forKey : Bool) {moment : DateTime}
    (plain : 0 ≤ moment.date.year) :
    timestamp.parse (dateTimeLiteral forKey moment) = .ok (moment.cut forKey) ∧
      date.parse (dateTimeLiteral forKey moment) = .ok (moment.cut forKey).date ∧
      zoned.parse (dateTimeLiteral forKey moment) = .ok (.universal (moment.cut forKey)) := by
  obtain ⟨inner, prints, wraps⟩ := exists_prints_dateTimeLiteral forKey plain
  exact parse_of_readDateTime (Calendar.readDateTime_of_prints prints wraps)

theorem parse_timeLiteral (clock : Time) :
    time.parse (timeLiteral clock) = .ok (Detail.minute.cut clock) :=
  parse_of_readTime (Calendar.readTime_of_wraps (wraps_quoted (Detail.minute.text clock)))

/-- A date has the literal of its first moment, of which nothing is cut off. -/
theorem cut_midnight (forKey : Bool) (day : Date) : day.midnight.cut forKey = day.midnight := by
  cases forKey <;> rfl

/-! ### Reading literals -/

/-- The content that a literal is read as: the cut one, without the sign of a zero. -/
def said (forKey : Bool) : (type : ScalarType) → type.Content → type.Content
  | decimal, content => content.withoutZeroSign
  | type, content => type.cut forKey content

/-- Every content of a type whose literals are read back has a literal, which says it. -/
theorem exists_literal_readLiteral (dialect : Dialect) (forKey : Bool) {type : ScalarType}
    (reads : type.isReadBack = true) (content : type.Content)
    (plain : type.hasPlainYear content = true) :
    ∃ text, dialect.literal forKey (type.toValue content) = .ok text ∧
      type.readLiteral text = .ok (type.said forKey content) := by
  cases type with
  | floating | text | character | fixedBytes | bytes => cases reads
  | boolean =>
    refine ⟨_, rfl, ?_⟩
    cases forKey <;> cases content <;> rfl
  | integer kind => exact ⟨_, rfl, parse_integerText content⟩
  | decimal => exact ⟨_, rfl, parse_decimalText content⟩
  | date =>
    have year : 0 ≤ content.midnight.date.year := of_decide_eq_true plain
    have read := (parse_dateTimeLiteral forKey year).2.1
    rw [cut_midnight] at read
    exact ⟨_, rfl, read⟩
  | time => exact ⟨_, rfl, parse_timeLiteral content⟩
  | timestamp => exact ⟨_, rfl, (parse_dateTimeLiteral forKey (of_decide_eq_true plain)).1⟩
  | zoned =>
    obtain ⟨moment, universal, year⟩ := (Option.any_eq_true _ _).mp plain
    refine ⟨_, literal_of_utc? dialect forKey universal, ?_⟩
    have cuts : zoned.said forKey content = .universal (moment.cut forKey) := by
      simp only [said, cut, universal]
    rw [cuts]
    exact (parse_dateTimeLiteral forKey (of_decide_eq_true year)).2.2
  | uuid =>
    refine ⟨_, rfl, ?_⟩
    rw [readLiteral, withoutQuotes_quoted]
    exact parse_uuidText content

section Agreement

variable {type : ScalarType} {first second : Bool} {left right : type.Content}

/-- What a literal is read as is equal to the cut content. -/
theorem same_said (reads : type.isReadBack = true) (forKey : Bool) (content : type.Content) :
    (type.toValue (type.said forKey content)).same (type.toValue (type.cut forKey content)) =
      true := by
  cases type with
  | floating | text | character | fixedBytes | bytes => cases reads
  | decimal => exact Decimal.sameNumber_withoutZeroSign content
  | _ => exact same_toValue_self rfl _

/-- Contents that are read as the same are equal once they are cut. -/
theorem same_cut_of_said_eq (reads : type.isReadBack = true)
    (equal : type.said first left = type.said second right) :
    (type.toValue (type.cut first left)).same (type.toValue (type.cut second right)) = true := by
  cases type with
  | floating | text | character | fixedBytes | bytes => cases reads
  | decimal => exact Decimal.sameNumber_of_withoutZeroSign_eq equal
  | _ =>
    have cuts : ScalarType.cut first _ left = ScalarType.cut second _ right := equal
    rw [cuts]
    exact same_toValue_self rfl _

end Agreement

/-! ### Literals in statements -/

/-- A content is written as a text that is read as an equal content, or one that is equal once the
content is cut to the precision of the literal. Whatever else is written as the same text is equal
to it, too, once it is cut. -/
theorem literal_readBack (dialect : Dialect) (context : Context) {type : ScalarType}
    (reads : type.isReadBack = true) (content : type.Content)
    (plain : type.hasPlainYear content = true) :
    ∃ text back,
      (dialect.writeValue context (type.toValue content)).toText = .ok text ∧
      type.readLiteral text = .ok back ∧
      (type.toValue back).same (type.toValue (type.cut context.isForKey content)) = true ∧
      ∀ (otherDialect : Dialect) (otherContext : Context) (other : type.Content),
        type.hasPlainYear other = true →
        (otherDialect.writeValue otherContext (type.toValue other)).toText = .ok text →
        (type.toValue (type.cut context.isForKey content)).same
          (type.toValue (type.cut otherContext.isForKey other)) = true := by
  simp only [toText_writeValue, Context.isKeyAssignment_eq]
  obtain ⟨text, literal, read⟩ :=
    exists_literal_readLiteral dialect context.isForKey reads content plain
  refine ⟨text, _, literal, read, same_said reads _ content, ?_⟩
  intro otherDialect otherContext other otherPlain written
  obtain ⟨otherText, otherLiteral, otherRead⟩ :=
    exists_literal_readLiteral otherDialect otherContext.isForKey reads other otherPlain
  obtain rfl := Except.ok.inj (otherLiteral.symm.trans written)
  exact same_cut_of_said_eq reads (Except.ok.inj (read.symm.trans otherRead))

/-- As a key, an instant in the last hour of a year is read back as the first moment of the last
day of that year, from the one literal that all its clocks have. -/
theorem literal_readBack_newYear :
    (∃ text back,
      (Dialect.mysql.writeValue ⟨.updateSet, none⟩ (.zoned (some newYearNight))).toText = .ok text ∧
      zoned.readLiteral text = .ok back ∧
      (Value.zoned (some back)).same (.zoned (some (zoned.cut true newYearNight))) = true) ∧
    (Value.zoned (some (zoned.cut true newYearNight))).same
      (.zoned (some (zoned.cut true newYearMorning))) = true := by
  obtain ⟨text, back, written, read, same, agree⟩ :=
    literal_readBack .mysql ⟨.updateSet, none⟩ (rfl : zoned.isReadBack = true) newYearNight
      (by decide)
  have equal : (Value.zoned (some newYearMorning)).same (.zoned (some newYearNight)) = true := by
    decide
  have alsoWritten : (Dialect.mysql.writeValue ⟨.deleteFromWhere, none⟩
      (.zoned (some newYearMorning))).toText = .ok text := by
    rw [toText_writeValue, literal_eq_of_same _ _ equal, ← written, toText_writeValue]
    rfl
  exact ⟨⟨text, back, written, read, same⟩,
    agree .mysql ⟨.deleteFromWhere, none⟩ newYearMorning (by decide) alsoWritten⟩

end ScalarType

end SqlRecords
