/-
This file proves that an identifier is read back from its own text. The text is made of hex digits
and hyphens alone and begins with a digit, so it stands neither in braces nor behind a word, and
its groups are read as they were written, one after the other.
-/

import Mathlib.Algebra.GroupWithZero.Nat
import Mathlib.Data.List.Basic
import SqlRecords.Uuid

namespace SqlRecords.Uuid

variable {character : Char} {sizes : List Nat} {bytes : List UInt8}

/-! ### The characters of an identifier -/

/-- The hex digits that identifiers are written with. -/
def IsHexDigit (character : Char) : Prop :=
  ∃ digit < 16, character = Nat.digitChar digit

theorem isHexDigit_of_mem_byteDigits {byte : UInt8} (member : character ∈ byteDigits byte) :
    IsHexDigit character := by
  have small := byte.toNat_lt
  simp only [byteDigits, List.mem_cons, List.not_mem_nil, or_false] at member
  rcases member with rfl | rfl
  · exact ⟨_, by omega, rfl⟩
  · exact ⟨_, by omega, rfl⟩

theorem eq_hyphen_or_isHexDigit (member : character ∈ writeGroups sizes bytes) :
    character = '-' ∨ IsHexDigit character := by
  have group {bytes : List UInt8} (member : character ∈ bytes.flatMap byteDigits) :
      IsHexDigit character := by
    obtain ⟨byte, -, digit⟩ := List.mem_flatMap.mp member
    exact isHexDigit_of_mem_byteDigits digit
  fun_induction writeGroups sizes bytes with
  | case1 => cases member
  | case2 size bytes => exact .inr (group member)
  | case3 size sizes bytes _ inductionHypothesis =>
    rw [List.append_assoc, List.mem_append, List.mem_append, List.mem_singleton] at member
    rcases member with digit | hyphen | rest
    · exact .inr (group digit)
    · exact .inl hyphen
    · exact inductionHypothesis rest

/-- What holds of hyphens and of hex digits holds of every character of an identifier. -/
theorem forall_mem_characters {holds : Char → Prop} (hyphen : holds '-')
    (digits : ∀ digit < 16, holds (Nat.digitChar digit)) (uuid : Uuid) :
    ∀ character ∈ uuid.characters, holds character := by
  intro character member
  rcases eq_hyphen_or_isHexDigit member with rfl | ⟨digit, small, rfl⟩
  · exact hyphen
  · exact digits digit small

theorem exists_characters_eq (uuid : Uuid) :
    ∃ digit < 16, ∃ rest, uuid.characters = Nat.digitChar digit :: rest := by
  obtain ⟨bytes, size⟩ := uuid
  cases bytes with
  | nil => cases size
  | cons byte others =>
    have small := byte.toNat_lt
    exact ⟨byte.toNat / 16, by omega, _, rfl⟩

/-! ### Their number -/

theorem length_flatMap_byteDigits (bytes : List UInt8) :
    (bytes.flatMap byteDigits).length = 2 * bytes.length := by
  induction bytes with
  | nil => rfl
  | cons byte bytes inductionHypothesis =>
    rw [List.flatMap_cons, List.length_append, inductionHypothesis, List.length_cons, Nat.mul_add,
      Nat.add_comm]
    rfl

theorem byteLength_eq_length {characters : List Char}
    (single : ∀ character ∈ characters, character.utf8Size = 1) :
    byteLength characters = characters.length := by
  unfold byteLength
  rw [List.map_eq_replicate_iff.mpr single, ← List.sum_eq_foldl_nat, List.sum_replicate_nat]
  exact Nat.mul_one _

theorem length_writeGroups (nonempty : sizes ≠ []) (exact : sizes.sum = bytes.length) :
    (writeGroups sizes bytes).length + 1 = 2 * bytes.length + sizes.length := by
  fun_induction writeGroups sizes bytes with
  | case1 => exact absurd rfl nonempty
  | case2 size bytes =>
    rw [List.sum_singleton] at exact
    rw [exact, List.take_length, length_flatMap_byteDigits]
    rfl
  | case3 size sizes bytes others inductionHypothesis =>
    rw [List.sum_cons] at exact
    have rest := inductionHypothesis others (by rw [List.length_drop]; omega)
    simp only [List.length_append, length_flatMap_byteDigits, List.length_take, List.length_drop,
      List.length_cons, List.length_nil] at rest ⊢
    omega

/-! ### Reading -/

theorem hexDigit?_digitChar {digit : Nat} (small : digit < 16) :
    Text.hexDigit? (Nat.digitChar digit) = some digit := by
  have each : ∀ digit < 16, Text.hexDigit? (Nat.digitChar digit) = some digit := by decide
  exact each digit small

theorem readBytes_byteDigits (byte : UInt8) (rest : List Char) :
    readBytes (byteDigits byte ++ rest) = (readBytes rest).map (byte :: ·) := by
  have small := byte.toNat_lt
  show (do
    let high ← Text.hexDigit? (Nat.digitChar (byte.toNat / 16))
    let low ← Text.hexDigit? (Nat.digitChar (byte.toNat % 16))
    let bytes ← readBytes rest
    some (UInt8.ofNat (16 * high + low) :: bytes)) = _
  rw [hexDigit?_digitChar (by omega), hexDigit?_digitChar (by omega), Option.bind_eq_bind,
    Option.bind_some, Option.bind_eq_bind, Option.bind_some, Nat.div_add_mod, UInt8.ofNat_toNat,
    Option.map_eq_bind]
  rfl

theorem readBytes_flatMap_byteDigits (bytes : List UInt8) :
    readBytes (bytes.flatMap byteDigits) = some bytes := by
  induction bytes with
  | nil => rfl
  | cons byte bytes inductionHypothesis =>
    rw [List.flatMap_cons, readBytes_byteDigits, inductionHypothesis, Option.map_some]

/-- Groups that take all bytes are read back as they were written. -/
theorem readGroups_writeGroups (exact : sizes.sum = bytes.length) :
    readGroups sizes (writeGroups sizes bytes) = some bytes := by
  fun_induction writeGroups sizes bytes with
  | case1 bytes =>
    cases List.eq_nil_of_length_eq_zero exact.symm
    rfl
  | case2 size bytes =>
    rw [List.sum_singleton] at exact
    rw [exact, List.take_length]
    exact readBytes_flatMap_byteDigits bytes
  | case3 size sizes bytes others inductionHypothesis =>
    rw [List.sum_cons] at exact
    have width : ((bytes.take size).flatMap byteDigits).length = 2 * size := by
      rw [length_flatMap_byteDigits, List.length_take_of_le (by omega)]
    have rest := inductionHypothesis (by rw [List.length_drop]; omega)
    rw [readGroups, List.append_assoc, List.take_left' width, List.drop_left' width,
      readBytes_flatMap_byteDigits]
    case x_2 => exact others
    show (do
      let others ← readGroups sizes (writeGroups sizes (bytes.drop size))
      some (bytes.take size ++ others)) = _
    rw [rest]
    exact congrArg some (List.take_append_drop size bytes)

/-! ### Texts -/

/-- The text of an identifier stands neither in braces nor behind a word. -/
theorem unwrap_characters (uuid : Uuid) : unwrap uuid.characters = uuid.characters := by
  obtain ⟨digit, small, rest, own⟩ := exists_characters_eq uuid
  have noBrace : insideBraces? uuid.characters = none := by
    have other : ∀ digit < 16, Nat.digitChar digit ≠ '\x7b' := by decide
    rw [own]
    unfold insideBraces?
    split
    case h_1 equal => exact absurd (List.cons.inj equal).1 (other digit small)
    case h_2 => rfl
  have noWord : afterUrnMark? uuid.characters = none := by
    have other : ∀ digit < 16, (Nat.digitChar digit).toLower ≠ 'u' := by decide
    rw [own]
    exact if_neg fun equal => other digit small (List.cons.inj equal).1
  unfold unwrap
  rw [noBrace, noWord]

theorem sum_groupSizes (uuid : Uuid) : groupSizes.sum = uuid.bytes.length :=
  uuid.size.symm

theorem byteLength_characters (uuid : Uuid) : byteLength uuid.characters = 36 := by
  have length := length_writeGroups (by decide) (sum_groupSizes uuid)
  rw [uuid.size] at length
  rw [byteLength_eq_length (forall_mem_characters (by decide) (by decide) uuid)]
  exact Nat.succ.inj length

/-- An identifier is read back from its own text. -/
theorem ofText_characters (uuid : Uuid) : ofText uuid.characters = .ok uuid := by
  have read : read? uuid.characters = some uuid := by
    unfold read?
    rw [unwrap_characters]
    dsimp only
    rw [if_neg (by rw [byteLength_characters]; decide), if_pos (byteLength_characters uuid)]
    show (readGroups groupSizes (writeGroups groupSizes uuid.bytes)).bind ofBytes? = _
    rw [readGroups_writeGroups (sum_groupSizes uuid)]
    exact dif_pos uuid.size
  unfold ofText
  rw [read]

end SqlRecords.Uuid
