/-
This file follows the decimal numbers of a MySQL server from a cell into a record. A server knows
numbers of up to sixty-five digits, thirty of them behind the point, and a decimal has room for
twenty-eight. What has no room behind the point is rounded away without an error, whichever way
the text of the number is read: from a cell, by itself, or by the tag of its column.
-/

import SqlRecords.Mysql.Cell
import SqlRecords.Proofs.Number.DecimalRounding
import SqlRecords.Proofs.Text.Utf8
import SqlRecords.Proofs.Value.ShownText
import SqlRecords.Value.Tag

namespace SqlRecords

open Decimal (Numeral)

variable (numeral : Numeral)

/-! ### Texts -/

/-- The text of a numeral. -/
def Decimal.Numeral.text : String :=
  String.ofList numeral.characters

theorem Decimal.Numeral.isBlank_of_mem {character : Char}
    (member : character ∈ numeral.characters) : Text.isBlank character = false := by
  rcases numeral.eq_mark_or_isDigit member with rfl | rfl | isDigit
  · exact isBlank_of_visible (by decide) (by decide)
  · exact isBlank_of_visible (by decide) (by decide)
  · exact isBlank_of_isDigit isDigit

theorem ScalarType.isRead_parse : numeral.IsRead id (ScalarType.parse .decimal numeral.text) := by
  have parses : ScalarType.parse .decimal numeral.text =
      ((Decimal.ofText numeral.characters).map id).mapError (.notDecimal numeral.text) := by
    rw [parse, Decimal.Numeral.text, trimmed_ofList fun _ => numeral.isBlank_of_mem]
    cases Decimal.ofText numeral.characters <;> rfl
  rw [parses]
  exact numeral.isRead_ofText.map id (ConversionError.notDecimal numeral.text)

theorem ColumnTag.isRead_convert {tag : ColumnTag} (family : tag.family = .decimal) :
    numeral.IsRead (Value.decimal ∘ some) (tag.convert (.text (some numeral.text))) := by
  have converts : tag.convert (.text (some numeral.text)) =
      ((ScalarType.parse .decimal numeral.text).map (Value.decimal ∘ some)).mapError id := by
    show tag.family.convert _ = _
    rw [family, TagFamily.convert, Conversion.through, ScalarType.ofValue,
      Conversion.decimalOfValue]
    cases ScalarType.parse .decimal numeral.text <;> rfl
  rw [converts]
  exact (ScalarType.isRead_parse numeral).map (Value.decimal ∘ some) id

namespace Mysql

variable {column : ColumnInfo} {tag : ColumnTag}

/-! ### Cells -/

theorem isRead_decodeCell (meaning : column.type.meaning = .decimal) :
    numeral.IsRead (Value.decimal ∘ some)
      (decodeCell column (.bytes (Text.encodeUtf8 numeral.text))) := by
  have decodes : decodeCell column (.bytes (Text.encodeUtf8 numeral.text)) =
      ((Decimal.ofText numeral.characters).map (Value.decimal ∘ some)).mapError .decimal := by
    show decodeBytes column _ = _
    unfold decodeBytes
    rw [meaning, Text.decodeUtf8_encodeUtf8]
    show ((Decimal.ofText numeral.text.toList).mapError _).bind _ = _
    rw [Decimal.Numeral.text, String.toList_ofList]
    cases Decimal.ofText numeral.characters <;> rfl
  rw [decodes]
  exact numeral.isRead_ofText.map (Value.decimal ∘ some) CellError.decimal

/-- A decimal number of a server is read as itself if some decimal is that number, and refused if
it rounds to more than any decimal. Every other number is rounded, from the cell, from its text
and by the tags of decimals alike. -/
theorem isRead_cell_text_tag (isDecimal : column.type = .decimal ∨ column.type = .newDecimal)
    (isDecimalTag : tag = .decimal ∨ tag = .newDecimal) :
    numeral.IsRead (Value.decimal ∘ some)
        (decodeCell column (.bytes (Text.encodeUtf8 numeral.text))) ∧
      numeral.IsRead id (ScalarType.parse .decimal numeral.text) ∧
      numeral.IsRead (Value.decimal ∘ some) (tag.convert (.text (some numeral.text))) := by
  have meaning : column.type.meaning = .decimal := by
    rcases isDecimal with type | type <;> rw [type] <;> rfl
  have family : tag.family = .decimal := by
    rcases isDecimalTag with rfl | rfl <;> rfl
  exact ⟨isRead_decodeCell numeral meaning, ScalarType.isRead_parse numeral,
    ColumnTag.isRead_convert numeral family⟩

/-- A column of amounts. -/
def amountColumn : ColumnInfo :=
  ⟨"amount", .newDecimal, false, binaryCharset⟩

/-- An amount with twenty-nine digits behind the point. -/
def amount : Numeral where
  negative := true
  whole := ['0']
  fraction := some "12345678901234567890123456789".toList
  allDigits := List.all_eq_true.mp (by decide)
  nonempty := by decide

/-- The last digit of the amount is rounded away, in the cell as in the text. -/
theorem isRead_amount :
    (∃ decimal, decodeCell amountColumn (.bytes (Text.encodeUtf8
          "-0.12345678901234567890123456789")) = .ok (.decimal (some decimal)) ∧
        decimal.number ≠ amount.number) ∧
      ∃ decimal, ColumnTag.newDecimal.convert
          (.text (some "-0.12345678901234567890123456789")) = .ok (.decimal (some decimal)) ∧
        decimal.number ≠ amount.number := by
  have text : amount.text = "-0.12345678901234567890123456789" := by decide
  have fitsNone := amount.not_fits_of_long (by decide) (by decide)
  have small : |amount.number| < 2 ^ 96 - 1 / 2 := by
    have less := Decimal.behindPoint_lt_one amount.isDigit_of_mem_fraction
    rw [Numeral.abs_number]
    show ((0 : Nat) : ℚ) + _ < _
    rw [Nat.cast_zero, zero_add]
    linarith
  have column : amountColumn.type = .decimal ∨ amountColumn.type = .newDecimal := .inr rfl
  have tag : ColumnTag.newDecimal = .decimal ∨ ColumnTag.newDecimal = .newDecimal := .inr rfl
  obtain ⟨cell, -, tag⟩ := isRead_cell_text_tag amount column tag
  rw [text] at cell tag
  obtain ⟨decoded, decodes, -⟩ := cell.rounded fitsNone small
  obtain ⟨converted, converts, -⟩ := tag.rounded fitsNone small
  exact ⟨⟨decoded, decodes, fun equal => fitsNone ⟨decoded, equal⟩⟩, converted, converts,
    fun equal => fitsNone ⟨converted, equal⟩⟩

end Mysql

end SqlRecords
