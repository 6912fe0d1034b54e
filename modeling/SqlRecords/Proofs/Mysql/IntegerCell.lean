/-
This file follows the whole numbers of a MySQL server from a cell into a record. A server sends a
number as text, as a number with or without a sign, or as the bytes of a bit string, and what it
sends decodes into the same number in all these forms: the forms lose nothing that the column can
hold, because a number that wraps into its form is unwrapped by the column's lack of a sign.

The tag of the column then takes the number over when it lies in the range of the tag. The tags
of numbers cover what their columns hold. The tag of bits does not: it stores a byte with a
sign, while a column of bits holds up to sixty-four of them.
-/

import Mathlib.Algebra.Group.Int.Defs
import SqlRecords.Mysql.Cell
import SqlRecords.Proofs.Number.IntegerText
import SqlRecords.Proofs.Text.Utf8
import SqlRecords.Proofs.Value.OwnType
import SqlRecords.Value.Tag

namespace SqlRecords

/-! ### Conversion by the tags of integers -/

/-- Whether a value is a whole number, of whatever kind. -/
def Value.IsNumber (number : Int) (value : Value) : Prop :=
  ∃ kind, ∃ content : Integer kind, content.value = number ∧ value = .integer kind (some content)

variable {tag : ColumnTag} {kind : IntegerKind} {number : Int} {value : Value}

theorem ColumnTag.convert_number (family : tag.family = .integer kind)
    (isNumber : value.IsNumber number) :
    tag.convert value =
      (Conversion.integerOf kind number).map fun stored => .integer kind (some stored) := by
  obtain ⟨other, content, rfl, rfl⟩ := isNumber
  show tag.family.convert _ = _
  rw [family]
  rfl

theorem ColumnTag.convert_number_of_inRange (family : tag.family = .integer kind)
    (isNumber : value.IsNumber number) (least_le : kind.least ≤ number)
    (le_greatest : number ≤ kind.greatest) :
    tag.convert value = .ok (.integer kind (some ⟨number, least_le, le_greatest⟩)) := by
  rw [convert_number family isNumber, ScalarType.integerOf_of_inRange least_le le_greatest]
  rfl

theorem ColumnTag.convert_number_of_greatest_lt (family : tag.family = .integer kind)
    (isNumber : value.IsNumber number) (greatest_lt : kind.greatest < number) :
    tag.convert value = .error (.outOfRange number kind) := by
  have none : Integer.ofInt? kind number = none :=
    dif_neg fun range => absurd range.2 (Int.not_le.mpr greatest_lt)
  rw [convert_number family isNumber, Conversion.integerOf, none]
  rfl

namespace Mysql

variable {column : ColumnInfo} {width : Nat} {cell : Cell}

/-! ### Columns of integers -/

/-- A column of whole numbers or of bits, with its tag and the bits of its cells. -/
inductive IntegerColumn (column : ColumnInfo) : ColumnTag → Nat → Prop
  | tiny (type : column.type = .tiny) :
    IntegerColumn column (if column.unsigned then .uByte else .byte) 8
  | short (type : column.type = .short) :
    IntegerColumn column (if column.unsigned then .uInt16 else .int16) 16
  | int24 (type : column.type = .int24) :
    IntegerColumn column (if column.unsigned then .uInt24 else .int24) 24
  | long (type : column.type = .long) :
    IntegerColumn column (if column.unsigned then .uInt32 else .int32) 32
  | longLong (type : column.type = .longLong) :
    IntegerColumn column (if column.unsigned then .uInt64 else .int64) 64
  | bits (type : column.type = .bit) (width : Nat) (positive : 1 ≤ width) (le : width ≤ 64) :
    IntegerColumn column .bit width

/-- Whether the cells of a column, of that many bits, can hold a number. A column of bits has no
sign, whatever it says. -/
def ColumnInfo.Holds (column : ColumnInfo) (width : Nat) (number : Int) : Prop :=
  if column.unsigned ∨ column.type = .bit then 0 ≤ number ∧ number < 2 ^ width
  else -2 ^ (width - 1) ≤ number ∧ number < 2 ^ (width - 1)

/-- The last bytes of a number, the first one counting most. -/
def bigEndian : Nat → Nat → List UInt8
  | 0, _ => []
  | count + 1, number => bigEndian count (number / 256) ++ [UInt8.ofNat number]

/-- The cells that a server sends for a number of a column: its digits, perhaps behind zeros; a
number with a sign, which may have wrapped; a number without one; or, of a column of bits, just
as many bytes as hold them. -/
inductive SentFor (column : ColumnInfo) (width : Nat) (number : Int) : Cell → Prop
  | text (notBits : column.type ≠ .bit) (digits : Nat) :
    SentFor column width number
      (.bytes (Text.encodeUtf8 (String.ofList (Integer.paddedText digits number))))
  | int (notBits : column.type ≠ .bit) (content : Integer .int64)
    (wrapped : content.value % 2 ^ 64 = number % 2 ^ 64) :
    SentFor column width number (.int content)
  | uint (notBits : column.type ≠ .bit) (content : Integer .uint64)
    (same : content.value = number) :
    SentFor column width number (.uint content)
  | bits (isBits : column.type = .bit) :
    SentFor column width number (.bytes (bigEndian ((width + 7) / 8) number.toNat))

theorem holds_iff_of_noSign (noSign : column.unsigned = true ∨ column.type = .bit) :
    column.Holds width number ↔ 0 ≤ number ∧ number < 2 ^ width := by
  unfold ColumnInfo.Holds
  rw [if_pos noSign]

theorem holds_iff_of_sign (unsigned : column.unsigned = false) (notBits : column.type ≠ .bit) :
    column.Holds width number ↔ -2 ^ (width - 1) ≤ number ∧ number < 2 ^ (width - 1) := by
  have sign : ¬(column.unsigned = true ∨ column.type = .bit) := by
    rw [unsigned]
    exact not_or.mpr ⟨Bool.false_ne_true, notBits⟩
  unfold ColumnInfo.Holds
  rw [if_neg sign]

/-- Cells with more bits hold all that cells with fewer hold. -/
theorem holds_of_le {wider : Nat} (le : width ≤ wider) (holds : column.Holds width number) :
    column.Holds wider number := by
  have grows {least most : Nat} (le : least ≤ most) : (2 : Int) ^ least ≤ 2 ^ most := by
    exact_mod_cast Nat.pow_le_pow_right (by decide : 2 > 0) le
  unfold ColumnInfo.Holds at holds ⊢
  split at holds
  case isTrue noSign =>
    rw [if_pos noSign]
    exact ⟨holds.1, Int.lt_of_lt_of_le holds.2 (grows le)⟩
  case isFalse sign =>
    have half := grows (Nat.sub_le_sub_right le 1)
    rw [if_neg sign]
    exact ⟨Int.le_trans (Int.neg_le_neg half) holds.1, Int.lt_of_lt_of_le holds.2 half⟩

namespace IntegerColumn

theorem width_le (integer : IntegerColumn column tag width) : width ≤ 64 := by
  cases integer with
  | bits _ width _ le => exact le
  | _ => decide

theorem tag_eq_bit_iff (integer : IntegerColumn column tag width) :
    tag = .bit ↔ column.type = .bit := by
  cases integer with
  | bits type => exact iff_of_true rfl type
  | _ type =>
    rw [type]
    cases column.unsigned <;> decide

theorem meaning_of_notBits (integer : IntegerColumn column tag width)
    (notBits : column.type ≠ .bit) : column.type.meaning = .integer := by
  cases integer with
  | bits type => exact absurd type notBits
  | _ type =>
    rw [type]
    rfl

/-- The tag of a column of numbers stores every number that the column can hold. -/
theorem inRange_of_notBits (integer : IntegerColumn column tag width)
    (notBits : column.type ≠ .bit) (holds : column.Holds width number) :
    ∃ kind, tag.family = .integer kind ∧ kind.least ≤ number ∧ number ≤ kind.greatest := by
  cases unsigned : column.unsigned with
  | true =>
    rw [holds_iff_of_noSign (.inl unsigned)] at holds
    cases integer with
    | bits type => exact absurd type notBits
    | _ =>
      rw [unsigned]
      refine ⟨_, rfl, ?_, ?_⟩ <;> simp only [IntegerKind.least, IntegerKind.greatest] <;> omega
  | false =>
    rw [holds_iff_of_sign unsigned notBits] at holds
    cases integer with
    | bits type => exact absurd type notBits
    | _ =>
      rw [unsigned]
      refine ⟨_, rfl, ?_, ?_⟩ <;> simp only [IntegerKind.least, IntegerKind.greatest] <;> omega

end IntegerColumn

/-! ### Decoding -/

/-- The kind of the numbers that the texts of a column are read as. -/
def wordKind (column : ColumnInfo) : IntegerKind :=
  if column.unsigned then .uint64 else .int64

theorem decodeBytes_integer (meaning : column.type.meaning = .integer) (digits : Nat)
    (content : Integer (wordKind column)) :
    decodeBytes column
        (Text.encodeUtf8 (String.ofList (Integer.paddedText digits content.value))) =
      .ok (.integer _ (some content)) := by
  unfold decodeBytes
  rw [meaning, Text.decodeUtf8_encodeUtf8]
  show ((Integer.ofText (wordKind column) (String.ofList _).toList).mapError _).bind _ = _
  rw [String.toList_ofList, Integer.ofText_paddedText]
  rfl

theorem bitsOf_bigEndian (count number : Nat) (fits : number < 256 ^ count) :
    bitsOf (bigEndian count number) = number := by
  induction count generalizing number with
  | zero =>
    rw [Nat.pow_zero, Nat.lt_one_iff] at fits
    exact fits.symm
  | succ count inductionHypothesis =>
    have shorter : number / 256 < 256 ^ count := Nat.div_lt_of_lt_mul (by
      rwa [Nat.pow_succ, Nat.mul_comm] at fits)
    have last : (UInt8.ofNat number).toNat = number % 256 := UInt8.toNat_ofNat'
    show List.foldl _ _ (bigEndian count (number / 256) ++ [UInt8.ofNat number]) = _
    rw [List.foldl_append]
    show bitsOf (bigEndian count (number / 256)) * 256 + (UInt8.ofNat number).toNat = _
    rw [inductionHypothesis _ shorter, last]
    omega

/-- The bytes that hold a number of a column of bits decode into it. -/
theorem decodeBytes_bits (isBits : column.type = .bit) (le : width ≤ 64) (number : Nat)
    (fits : number < 2 ^ width) :
    ∃ decoded, decodeBytes column (bigEndian ((width + 7) / 8) number) = .ok decoded ∧
      decoded.IsNumber number := by
  have enough : number < 256 ^ ((width + 7) / 8) := by
    have power : 256 ^ ((width + 7) / 8) = 2 ^ (8 * ((width + 7) / 8)) := (Nat.pow_mul 2 8 _).symm
    rw [power]
    exact Nat.lt_of_lt_of_le fits (Nat.pow_le_pow_right (by decide) (by omega))
  have word : (number : Int) % 2 ^ 64 = number := by
    have below : number < 2 ^ 64 :=
      Nat.lt_of_lt_of_le fits (Nat.pow_le_pow_right (by decide) le)
    omega
  unfold decodeBytes
  rw [isBits]
  refine ⟨_, rfl, _, _, ?_, rfl⟩
  rw [bitsOf_bigEndian _ _ enough]
  exact word

/-- What a server sends for a number decodes into it. -/
theorem decodeCell_sentFor (integer : IntegerColumn column tag width)
    (holds : column.Holds width number) (sent : SentFor column width number cell) :
    ∃ decoded, decodeCell column cell = .ok decoded ∧ decoded.IsNumber number := by
  have inWord : column.Holds 64 number := holds_of_le integer.width_le holds
  cases sent with
  | bits isBits =>
    obtain ⟨natural, fits⟩ := (holds_iff_of_noSign (.inr isBits)).mp holds
    obtain ⟨number, rfl⟩ := Int.eq_ofNat_of_zero_le natural
    exact decodeBytes_bits isBits integer.width_le number (by exact_mod_cast fits)
  | uint notBits content same => exact ⟨_, rfl, _, _, same, rfl⟩
  | int notBits content wrapped =>
    cases unsigned : column.unsigned with
    | true =>
      rw [holds_iff_of_noSign (.inl unsigned)] at inWord
      refine ⟨_, if_pos unsigned, _, _, ?_, rfl⟩
      show content.value % 2 ^ 64 = number
      omega
    | false =>
      rw [holds_iff_of_sign unsigned notBits] at inWord
      have least : -2 ^ 63 ≤ content.value := content.least_le
      have greatest : content.value ≤ 2 ^ 63 - 1 := content.le_greatest
      refine ⟨_, if_neg (by rw [unsigned]; decide), _, _, ?_, rfl⟩
      omega
  | text notBits digits =>
    have meaning := integer.meaning_of_notBits notBits
    have range : (wordKind column).least ≤ number ∧ number ≤ (wordKind column).greatest := by
      unfold wordKind
      cases unsigned : column.unsigned with
      | true =>
        rw [holds_iff_of_noSign (.inl unsigned)] at inWord
        exact ⟨inWord.1, Int.le_sub_one_of_lt inWord.2⟩
      | false =>
        rw [holds_iff_of_sign unsigned notBits] at inWord
        exact ⟨inWord.1, Int.le_sub_one_of_lt inWord.2⟩
    exact ⟨_, decodeBytes_integer meaning digits ⟨number, range.1, range.2⟩, _, _, rfl, rfl⟩

/-! ### From a cell into a record -/

/-- What a server sends for a whole number decodes into it. The tag of the column stores that
number then, with one exception: of the numbers of a column of bits the tag stores those up to
127, and refuses the greater ones. -/
theorem convert_decodeCell_sentFor (integer : IntegerColumn column tag width)
    (holds : column.Holds width number) (sent : SentFor column width number cell) :
    ∃ decoded, decodeCell column cell = .ok decoded ∧ decoded.IsNumber number ∧
      ((∃ stored, tag.convert decoded = .ok stored ∧ stored.IsNumber number) ↔
        (column.type = .bit → number ≤ 127)) ∧
      (column.type = .bit → 127 < number →
        tag.convert decoded = .error (.outOfRange number .int8)) := by
  obtain ⟨decoded, decodes, isNumber⟩ := decodeCell_sentFor integer holds sent
  refine ⟨decoded, decodes, isNumber, ?_⟩
  by_cases isBits : column.type = .bit
  case neg =>
    obtain ⟨kind, family, least_le, le_greatest⟩ := integer.inRange_of_notBits isBits holds
    have stores := ColumnTag.convert_number_of_inRange family isNumber least_le le_greatest
    exact ⟨iff_of_true ⟨_, stores, _, _, rfl, rfl⟩ fun type => absurd type isBits,
      fun type => absurd type isBits⟩
  case pos =>
    have family : tag.family = .integer .int8 := by
      rw [integer.tag_eq_bit_iff.mpr isBits]
      rfl
    have refuses (large : 127 < number) :=
      ColumnTag.convert_number_of_greatest_lt family isNumber large
    refine ⟨⟨fun ⟨stored, stores, _⟩ _ => ?_, fun small => ?_⟩, fun _ => refuses⟩
    · refine Int.not_lt.mp fun large => ?_
      rw [refuses large] at stores
      cases stores
    · have natural : 0 ≤ number := ((holds_iff_of_noSign (.inr isBits)).mp holds).1
      have least_le : IntegerKind.int8.least ≤ number := Int.le_trans (by decide) natural
      exact ⟨_, ColumnTag.convert_number_of_inRange family isNumber least_le (small isBits), _, _,
        rfl, rfl⟩

/-- A column of eight bits. -/
def flagsColumn : ColumnInfo :=
  ⟨"flags", .bit, true, binaryCharset⟩

/-- A column of numbers without a sign. -/
def counterColumn : ColumnInfo :=
  ⟨"counter", .longLong, true, binaryCharset⟩

/-- The bits of 200 decode into a number that their tag refuses, and the greatest number of a
column without a sign is stored although it is sent as -1. -/
theorem convert_decodeCell_flags_counter :
    (∃ decoded, decodeCell flagsColumn (.bytes [200]) = .ok decoded ∧ decoded.IsNumber 200 ∧
        ColumnTag.bit.convert decoded = .error (.outOfRange 200 .int8)) ∧
      ∃ decoded, decodeCell counterColumn (.int ⟨-1, by decide, by decide⟩) = .ok decoded ∧
        ∃ stored, ColumnTag.uInt64.convert decoded = .ok stored ∧
          stored.IsNumber 18446744073709551615 := by
  have bits : IntegerColumn flagsColumn .bit 8 := .bits rfl 8 (by decide) (by decide)
  have bitsHold : flagsColumn.Holds 8 200 := (holds_iff_of_noSign (.inl rfl)).mpr (by decide)
  have bitsSent : SentFor flagsColumn 8 200 (.bytes [200]) := .bits rfl
  have numbers : IntegerColumn counterColumn .uInt64 64 := .longLong rfl
  have numbersHold : counterColumn.Holds 64 18446744073709551615 :=
    (holds_iff_of_noSign (.inl rfl)).mpr (by decide)
  have numbersSent : SentFor counterColumn 64 18446744073709551615
      (.int ⟨-1, by decide, by decide⟩) := .int (by decide) _ (by decide)
  obtain ⟨flags, flagsDecode, isFlags, _, refuses⟩ :=
    convert_decodeCell_sentFor bits bitsHold bitsSent
  obtain ⟨counter, counterDecodes, _, stores, _⟩ :=
    convert_decodeCell_sentFor numbers numbersHold numbersSent
  exact ⟨⟨flags, flagsDecode, isFlags, refuses rfl (by decide)⟩, counter, counterDecodes,
    stores.mpr fun type => nomatch type⟩

end Mysql

end SqlRecords
