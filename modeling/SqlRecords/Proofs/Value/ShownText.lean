/-
This file says which contents are read back from the texts that they are shown as. A column of
texts shows a truth value, a number, a date, a time or an identifier as its own text, and a field
reads that text. Both sides were made apart from each other, and they differ: a time or a date-time
before ten in the morning is shown with one digit for its hour, which is refused, and the text of a
zoned date-time is in no spelling that is read. Everything else comes back.
-/

import SqlRecords.Proofs.Calendar.OwnText
import SqlRecords.Proofs.Number.DecimalText
import SqlRecords.Proofs.UuidText
import SqlRecords.Proofs.Value.OwnType
import SqlRecords.Proofs.Value.WholeNumber
import SqlRecords.Value.Tag

namespace SqlRecords

/-! ### Texts without white space -/

theorem trimmed_ofList {characters : List Char}
    (visible : ∀ character ∈ characters, Text.isBlank character = false) :
    Conversion.trimmed (String.ofList characters) = characters := by
  unfold Conversion.trimmed
  rw [String.toList_ofList]
  exact strip_eq_self (fun character first => visible character (List.mem_of_mem_head? first))
    fun character last => visible character (List.mem_of_mem_getLast? last)

theorem isBlank_of_mem_intText {kind : IntegerKind} (number : Integer kind) {character : Char}
    (member : character ∈ Integer.intText number.value) : Text.isBlank character = false :=
  (Integer.isNumeral_intText number.value (Integer.isSigned_of_neg number)).isBlank_of_mem member

theorem isBlank_of_mem_uuid (uuid : Uuid) :
    ∀ character ∈ uuid.characters, Text.isBlank character = false := by
  have visible : ∀ digit < 16,
      33 ≤ (Nat.digitChar digit).toNat ∧ (Nat.digitChar digit).toNat ≤ 126 := by decide
  have hyphen : Text.isBlank '-' = false := isBlank_of_visible (by decide) (by decide)
  exact uuid.forall_mem_characters hyphen fun digit small =>
    isBlank_of_visible (visible digit small).1 (visible digit small).2

namespace ScalarType

/-! ### Contents that are shown -/

/-- The types whose contents have texts to be read back. Bytes are not shown but are texts or not
as they are; floating point numbers are left out. -/
def isShown : ScalarType → Bool
  | floating _ | fixedBytes | bytes => false
  | _ => true

/-- Whether a content is read back from its own text. -/
def readsOwnText : (type : ScalarType) → type.Content → Bool
  | time, content => 10 ≤ content.hour
  | timestamp, content => 10 ≤ content.time.hour
  | zoned, _ => false
  | _, _ => true

variable {type : ScalarType} {content : type.Content} {text : String}

theorem exists_plainText (shown : type.isShown = true) (content : type.Content) :
    ∃ text, Conversion.plainText (type.toValue content) = .ok text := by
  cases type with
  | floating | fixedBytes | bytes => cases shown
  | _ => exact ⟨_, rfl⟩

theorem ofValue_text (shown : type.isShown = true) (text : String) :
    type.ofValue (.text (some text)) = type.parse text := by
  cases type with
  | fixedBytes | bytes => cases shown
  | _ => rfl

theorem same_toValue_self (shown : type.isShown = true) (content : type.Content) :
    (type.toValue content).same (type.toValue content) = true := by
  cases type with
  | floating | fixedBytes | bytes => cases shown
  | decimal => exact beq_self_eq_true _
  | zoned => simp [toValue, Value.same, Value.sameContent, ZonedDateTime.sameInstant]
  | _ => simp [toValue, Value.same]

/-! ### Reading the texts -/

theorem parse_booleanText (content : Bool) :
    boolean.parse (Value.booleanText content) = .ok content := by
  cases content <;> rfl

theorem parse_integerText {kind : IntegerKind} (number : Integer kind) :
    (integer kind).parse number.text = .ok number := by
  rw [parse, Integer.text, trimmed_ofList fun _ => isBlank_of_mem_intText number,
    Integer.ofText_intText]
  rfl

theorem parse_decimalText (number : Decimal) :
    decimal.parse number.text = .ok number.withoutZeroSign := by
  rw [parse, Decimal.text, trimmed_ofList fun _ => Decimal.isBlank_of_mem_characters,
    Decimal.ofText_characters]
  rfl

theorem parse_dateText (day : Date) : date.parse day.text = .ok day := by
  rw [parse, Date.text, String.toList_ofList, Calendar.readDate, Calendar.readBareDate_date]
  rfl

theorem parse_timeText {clock : Time} (late : 10 ≤ clock.hour) :
    time.parse clock.text = .ok clock := by
  rw [parse, Time.text, String.toList_ofList, Calendar.readTime_characters late]
  rfl

theorem parse_timestampText {moment : DateTime} (late : 10 ≤ moment.time.hour) :
    timestamp.parse moment.text = .ok moment := by
  rw [parse, DateTime.text, String.toList_ofList, Calendar.readDateTime_characters late]
  rfl

theorem parse_uuidText (identifier : Uuid) : uuid.parse identifier.text = .ok identifier := by
  rw [parse, Uuid.text, trimmed_ofList (isBlank_of_mem_uuid identifier), Uuid.ofText_characters]
  rfl

/-- The text of a content that is read back gives a content with the same value. -/
theorem parse_plainText (shown : type.isShown = true) (reads : type.readsOwnText content = true)
    (plain : Conversion.plainText (type.toValue content) = .ok text) :
    ∃ back, type.parse text = .ok back ∧
      (type.toValue back).same (type.toValue content) = true := by
  have itself (read : type.parse text = .ok content) :
      ∃ back, type.parse text = .ok back ∧
        (type.toValue back).same (type.toValue content) = true :=
    ⟨content, read, same_toValue_self shown content⟩
  cases type with
  | floating | fixedBytes | bytes => cases shown
  | zoned => cases reads
  | boolean =>
    obtain rfl := Except.ok.inj plain
    exact itself (parse_booleanText content)
  | integer kind =>
    obtain rfl := Except.ok.inj plain
    exact itself (parse_integerText content)
  | decimal =>
    obtain rfl := Except.ok.inj plain
    exact ⟨_, parse_decimalText content, Decimal.sameNumber_withoutZeroSign content⟩
  | text =>
    obtain rfl := Except.ok.inj plain
    exact itself rfl
  | character =>
    obtain rfl := Except.ok.inj plain
    exact itself (readCharacter_singleton content)
  | date =>
    obtain rfl := Except.ok.inj plain
    exact itself (parse_dateText content)
  | time =>
    obtain rfl := Except.ok.inj plain
    exact itself (parse_timeText (of_decide_eq_true reads))
  | timestamp =>
    obtain rfl := Except.ok.inj plain
    exact itself (parse_timestampText (of_decide_eq_true reads))
  | uuid =>
    obtain rfl := Except.ok.inj plain
    exact itself (parse_uuidText content)

/-- The type that a refused text is said to be none of. -/
def refusedAs : ScalarType → ScalarType
  | timestamp | zoned => date
  | type => type

/-- The text of any other content is refused, whatever it shows. -/
theorem parse_plainText_of_not (refused : type.readsOwnText content = false)
    (plain : Conversion.plainText (type.toValue content) = .ok text) :
    type.parse text = .error (.notReadable text type.refusedAs) := by
  cases type with
  | time =>
    obtain rfl := Except.ok.inj plain
    have early : content.hour < 10 := Nat.lt_of_not_le (of_decide_eq_false refused)
    rw [parse, Time.text, String.toList_ofList, Calendar.readTime_characters_of_lt early]
    rfl
  | timestamp =>
    obtain rfl := Except.ok.inj plain
    have early : content.time.hour < 10 := Nat.lt_of_not_le (of_decide_eq_false refused)
    rw [parse, DateTime.text, String.toList_ofList,
      Calendar.readDateTime_characters_of_lt early]
    rfl
  | zoned =>
    obtain rfl := Except.ok.inj plain
    rw [parse, ZonedDateTime.text, String.toList_ofList, Calendar.readZoned_characters]
    rfl
  | _ => cases refused

end ScalarType

/-! ### Columns of texts -/

theorem convert_of_plainText {tag : ColumnTag} (texts : tag.family = .text) {value : Value}
    {text : String} (present : value.isNull = false)
    (plain : Conversion.plainText value = .ok text) :
    tag.convert value = .ok (.text (some text)) := by
  unfold ColumnTag.convert
  rw [present, if_neg Bool.false_ne_true, texts]
  show (Conversion.plainText value).map _ = _
  rw [plain]
  rfl

/-- A column of texts shows every content, and what it shows is read back as the same value, but
for times and date-times before ten and for zoned date-times, whose texts are refused. -/
theorem convert_text_readBack (tag : ColumnTag) (texts : tag.family = .text) (type : ScalarType)
    (shown : type.isShown = true) (content : type.Content) :
    ∃ text, tag.convert (type.toValue content) = .ok (.text (some text)) ∧
      if type.readsOwnText content then
        ∃ back, type.ofValue (.text (some text)) = .ok back ∧
          (type.toValue back).same (type.toValue content) = true
      else
        type.ofValue (.text (some text)) = .error (.notReadable text type.refusedAs) := by
  obtain ⟨text, plain⟩ := ScalarType.exists_plainText shown content
  refine ⟨text, convert_of_plainText texts (type.isNull_toValue content) plain, ?_⟩
  rw [ScalarType.ofValue_text shown]
  split
  case isTrue reads => exact ScalarType.parse_plainText shown reads plain
  case isFalse refused =>
    exact ScalarType.parse_plainText_of_not (eq_false_of_ne_true refused) plain

/-- The middle of the day. -/
def Time.noon : Time :=
  { Time.midnight with hour := 12, hour_lt := by decide }

/-- A column of texts keeps noon but not midnight. -/
theorem convert_text_readBack_noon :
    (∃ text, ColumnTag.varChar.convert (.time (some .noon)) = .ok (.text (some text)) ∧
      ∃ back, ScalarType.time.ofValue (.text (some text)) = .ok back ∧
        (ScalarType.time.toValue back).same (.time (some .noon)) = true) ∧
    ∃ text, ColumnTag.varChar.convert (.time (some .midnight)) = .ok (.text (some text)) ∧
      ScalarType.time.ofValue (.text (some text)) = .error (.notReadable text .time) :=
  ⟨convert_text_readBack .varChar rfl .time rfl Time.noon,
    convert_text_readBack .varChar rfl .time rfl Time.midnight⟩

end SqlRecords
