/-
This file follows characters and bytes of a MySQL server from a cell into a record. Bytes that are
no number become a text or stay bytes, and whichever of the two they become, they are all still
there: the text encodes into them. So a tag of bytes gives them back, and a tag of texts gives the
text that they are whenever they are one.
-/

import SqlRecords.Mysql.Cell
import SqlRecords.Proofs.Text.Utf8
import SqlRecords.Value.Tag

namespace SqlRecords

variable {tag : ColumnTag} {bytes : List UInt8} {value : Value} {content : String}

/-! ### Values that hold bytes -/

/-- The values made of bytes: the bytes themselves, and a text that they encode. -/
inductive Value.HoldsBytes : List UInt8 → Value → Prop
  | text (content : String) : HoldsBytes (Text.encodeUtf8 content) (.text (some content))
  | blob (content : List UInt8) : HoldsBytes content (.blob (some content))

/-- What can still be made of a value that was bytes. -/
structure Value.KeepsBytes (bytes : List UInt8) (value : Value) : Prop where
  bytesBack : ScalarType.ofValue .fixedBytes value = .ok bytes
  textBack : ∀ content, Text.encodeUtf8 content = bytes →
    ScalarType.ofValue .text value = .ok content
  blobTag : ∀ tag : ColumnTag, tag.family = .blob → tag.convert value = .ok (.blob (some bytes))
  textTag : ∀ tag : ColumnTag, tag.family = .text → ∀ content, Text.encodeUtf8 content = bytes →
    tag.convert value = .ok (.text (some content))
  textTag_refuses : ∀ tag : ColumnTag, tag.family = .text → ¬Text.IsUtf8 bytes →
    ∃ reason, tag.convert value = .error reason

namespace Value.HoldsBytes

theorem isNull_eq_false (holds : value.HoldsBytes bytes) : value.isNull = false := by
  cases holds with
  | text | blob => rfl

theorem bytesOfValue (holds : value.HoldsBytes bytes) :
    Conversion.bytesOfValue value = .ok bytes := by
  cases holds with
  | text | blob => rfl

theorem textOfValue (holds : value.HoldsBytes bytes) :
    Conversion.textOfValue value = (Text.decodeUtf8 bytes).mapError .notUtf8 := by
  cases holds with
  | text content =>
    rw [Text.decodeUtf8_encodeUtf8]
    rfl
  | blob => rfl

theorem plainText (holds : value.HoldsBytes bytes) :
    Conversion.plainText value = Conversion.textOfValue value := by
  cases holds with
  | text | blob => rfl

theorem convert (holds : value.HoldsBytes bytes) (tag : ColumnTag) :
    tag.convert value = tag.family.convert value := by
  rw [ColumnTag.convert, holds.isNull_eq_false]
  rfl

theorem convert_text (holds : value.HoldsBytes bytes) (family : tag.family = .text) :
    tag.convert value =
      ((Text.decodeUtf8 bytes).mapError ConversionError.notUtf8).map fun content =>
        .text (some content) := by
  rw [holds.convert, family, TagFamily.convert, holds.plainText, holds.textOfValue]

/-- A text and the bytes that it encodes into are worth the same. -/
theorem keepsBytes (holds : value.HoldsBytes bytes) : value.KeepsBytes bytes where
  bytesBack := holds.bytesOfValue
  textBack := by
    rintro content rfl
    rw [ScalarType.ofValue, holds.textOfValue, Text.decodeUtf8_encodeUtf8]
    rfl
  blobTag := by
    intro tag family
    rw [holds.convert, family, TagFamily.convert, Conversion.through, ScalarType.ofValue,
      holds.bytesOfValue]
    rfl
  textTag := by
    rintro tag family content rfl
    rw [holds.convert_text family, Text.decodeUtf8_encodeUtf8]
    rfl
  textTag_refuses := by
    intro tag family notUtf8
    obtain ⟨reason, decodes⟩ := (Text.not_isUtf8_iff _).mp notUtf8
    rw [holds.convert_text family, decodes]
    exact ⟨_, rfl⟩

end Value.HoldsBytes

namespace Mysql

variable {column : ColumnInfo}

/-! ### Cells -/

/-- The types of columns whose text cells are numbers. -/
def ColumnType.numbers : List ColumnType :=
  [.tiny, .short, .int24, .long, .longLong, .year, .float, .double, .decimal, .newDecimal, .bit]

theorem meaning_of_not_mem_numbers {type : ColumnType} (noNumber : type ∉ ColumnType.numbers) :
    type.meaning = if type = .geometry then .bytes else .characters := by
  cases type with
  | tiny | short | int24 | long | longLong | year | float | double | decimal | newDecimal | bit =>
    exact absurd (by decide) noNumber
  | _ => rfl

theorem decodeCell_text (meaning : column.type.meaning = .characters)
    (textual : column.charset ≠ binaryCharset) (content : String) :
    decodeCell column (.bytes (Text.encodeUtf8 content)) = .ok (.text (some content)) := by
  show decodeBytes column _ = _
  unfold decodeBytes
  rw [meaning]
  show (if column.charset = binaryCharset then _ else _) = _
  rw [if_neg textual, Text.decodeUtf8_encodeUtf8]
  rfl

theorem decodeCell_geometry (meaning : column.type.meaning = .bytes) :
    decodeCell column (.bytes bytes) = .ok (.blob (some bytes)) := by
  show decodeBytes column bytes = _
  unfold decodeBytes
  rw [meaning]
  rfl

theorem decodeCell_noText (meaning : column.type.meaning = .characters)
    (noText : ¬(column.charset ≠ binaryCharset ∧ Text.IsUtf8 bytes)) :
    decodeCell column (.bytes bytes) = .ok (.blob (some bytes)) := by
  show decodeBytes column bytes = _
  unfold decodeBytes
  rw [meaning]
  show (if column.charset = binaryCharset then _ else _) = _
  by_cases binary : column.charset = binaryCharset
  case pos => exact if_pos binary
  case neg =>
    obtain ⟨reason, decodes⟩ := (Text.not_isUtf8_iff _).mp fun isUtf8 => noText ⟨binary, isUtf8⟩
    rw [if_neg binary, decodes]
    rfl

/-- Whether a value is what bytes of a column become: a text, if the column has texts and the bytes
are one, and the bytes otherwise. -/
structure IsDecodedFrom (column : ColumnInfo) (bytes : List UInt8) (value : Value) : Prop where
  text_iff : (∃ content, value = .text (some content)) ↔
    column.type ≠ .geometry ∧ column.charset ≠ binaryCharset ∧ Text.IsUtf8 bytes
  text : ∀ content, value = .text (some content) →
    Text.encodeUtf8 content = bytes ∧ ScalarType.ofValue .text value = .ok content
  blob : (¬∃ content, value = .text (some content)) → value = .blob (some bytes)

theorem isDecodedFrom_text {content : String} (notGeometry : column.type ≠ .geometry)
    (textual : column.charset ≠ binaryCharset) :
    IsDecodedFrom column (Text.encodeUtf8 content) (.text (some content)) where
  text_iff := iff_of_true ⟨content, rfl⟩
    ⟨notGeometry, textual, (Text.isUtf8_iff _).mpr ⟨content, rfl⟩⟩
  text := by
    rintro _ ⟨rfl⟩
    exact ⟨rfl, rfl⟩
  blob noText := absurd ⟨content, rfl⟩ noText

theorem isDecodedFrom_blob (noText : ¬(column.type ≠ .geometry ∧
    column.charset ≠ binaryCharset ∧ Text.IsUtf8 bytes)) :
    IsDecodedFrom column bytes (.blob (some bytes)) where
  text_iff := iff_of_false (fun ⟨_, equal⟩ => nomatch equal) noText
  text _ equal := nomatch equal
  blob _ := rfl

/-- The bytes of a column that is no number decode, and nothing of them is lost. -/
theorem decodeCell_keepsBytes (noNumber : column.type ∉ ColumnType.numbers) (bytes : List UInt8) :
    ∃ value, decodeCell column (.bytes bytes) = .ok value ∧
      IsDecodedFrom column bytes value ∧ value.KeepsBytes bytes := by
  have meaning := meaning_of_not_mem_numbers noNumber
  have stays := (Value.HoldsBytes.blob bytes).keepsBytes
  by_cases geometry : column.type = .geometry
  case pos =>
    rw [if_pos geometry] at meaning
    exact ⟨_, decodeCell_geometry meaning, isDecodedFrom_blob fun all => all.1 geometry, stays⟩
  case neg =>
    rw [if_neg geometry] at meaning
    by_cases isText : column.charset ≠ binaryCharset ∧ Text.IsUtf8 bytes
    case pos =>
      obtain ⟨textual, isUtf8⟩ := isText
      obtain ⟨content, rfl⟩ := (Text.isUtf8_iff bytes).mp isUtf8
      exact ⟨_, decodeCell_text meaning textual content, isDecodedFrom_text geometry textual,
        (Value.HoldsBytes.text content).keepsBytes⟩
    case neg =>
      exact ⟨_, decodeCell_noText meaning isText, isDecodedFrom_blob fun all => isText all.2, stays⟩

/-- A column of labels, with a character set. -/
def labelColumn : ColumnInfo :=
  ⟨"label", .varString, false, 45⟩

/-- A slash that is written with more bytes than it needs is no text, and no tag of texts takes
it. -/
theorem decodeCell_keepsBytes_longSlash :
    labelColumn.type ∉ ColumnType.numbers ∧
      decodeCell labelColumn (.bytes [0xC0, 0xAF]) = .ok (.blob (some [0xC0, 0xAF])) ∧
      ∃ reason, ColumnTag.varChar.convert (.blob (some [0xC0, 0xAF])) = .error reason := by
  have noNumber : labelColumn.type ∉ ColumnType.numbers := by decide
  have notUtf8 : ¬Text.IsUtf8 [0xC0, 0xAF] := (Text.not_isUtf8_iff _).mpr ⟨_, rfl⟩
  obtain ⟨value, decodes, isDecoded, keeps⟩ := decodeCell_keepsBytes noNumber [0xC0, 0xAF]
  have noText : ¬∃ content, value = .text (some content) :=
    fun isText => notUtf8 (isDecoded.text_iff.mp isText).2.2
  obtain rfl := isDecoded.blob noText
  exact ⟨noNumber, decodes, keeps.textTag_refuses .varChar rfl notUtf8⟩

end Mysql

end SqlRecords
