/-
This file proves that bytes decode into a text exactly if they are the encoding of that text, so
nothing is lost on the way from a text to its bytes and back.

The bytes that encode texts are those that are made of sequences, one for each character. The
ranges of the second byte keep a sequence from being longer than its character needs, and from
standing for a surrogate or for more than the greatest code point.
-/

import SqlRecords.Text.Utf8

namespace SqlRecords.Text

theorem toArray_encodeUtf8 (text : String) :
    (⟨(encodeUtf8 text).toArray⟩ : ByteArray) = text.toByteArray := by
  unfold encodeUtf8
  rw [Array.toArray_toList]
  rfl

/-- Bytes decode into a text exactly if they are its encoding. -/
theorem decodeUtf8_eq_ok_iff (bytes : List UInt8) (text : String) :
    decodeUtf8 bytes = .ok text ↔ bytes = encodeUtf8 text := by
  unfold decodeUtf8 String.fromUTF8?
  constructor
  · intro decoded
    split at decoded
    case h_2 => cases decoded
    case h_1 found =>
      split at found
      case isFalse => cases found
      case isTrue valid =>
        cases decoded
        cases found
        rfl
  · rintro rfl
    rw [toArray_encodeUtf8, dif_pos text.isValidUTF8]
    rfl

theorem decodeUtf8_encodeUtf8 (text : String) : decodeUtf8 (encodeUtf8 text) = .ok text :=
  (decodeUtf8_eq_ok_iff _ _).mpr rfl

theorem encodeUtf8_injective {first second : String}
    (equal : encodeUtf8 first = encodeUtf8 second) : first = second := by
  have decodes := decodeUtf8_encodeUtf8 first
  rw [equal, decodeUtf8_encodeUtf8] at decodes
  exact (Except.ok.inj decodes).symm

/-! ### The bytes of a text -/

theorem length_encodeUtf8 (text : String) : (encodeUtf8 text).length = text.utf8ByteSize :=
  Array.length_toList

theorem encodeUtf8_append (first second : String) :
    encodeUtf8 (first ++ second) = encodeUtf8 first ++ encodeUtf8 second := by
  unfold encodeUtf8
  simp

/-- The first bytes of a text, as many as one of its beginnings has, decode into that beginning. -/
theorem decodeUtf8_take_append (beginning rest : String) :
    decodeUtf8 ((encodeUtf8 (beginning ++ rest)).take beginning.utf8ByteSize) = .ok beginning := by
  rw [encodeUtf8_append, ← length_encodeUtf8, List.take_left, decodeUtf8_encodeUtf8]

theorem textBefore_append (beginning rest : String) :
    textBefore beginning.utf8ByteSize (encodeUtf8 (beginning ++ rest)) = beginning := by
  unfold textBefore
  rw [decodeUtf8_take_append]
  rfl

theorem encodeUtf8_ofList (characters : List Char) :
    encodeUtf8 (String.ofList characters) = characters.flatMap String.utf8EncodeChar := by
  show (String.ofList characters).toByteArray.data.toList = _
  rw [String.toByteArray_ofList, List.utf8Encode, List.data_toByteArray]

/-- Whether a byte can stand behind the first one of a sequence. -/
def IsFollowing (byte : UInt8) : Prop :=
  0x80 ≤ byte.toNat ∧ byte.toNat ≤ 0xBF

/-- The sequences of bytes that are characters. -/
inductive IsSequence : List UInt8 → Prop
  | one {first : UInt8} (first_le : first.toNat ≤ 0x7F) : IsSequence [first]
  | two {first second : UInt8} (le_first : 0xC2 ≤ first.toNat) (first_le : first.toNat ≤ 0xDF)
    (follows : IsFollowing second) : IsSequence [first, second]
  | three {first second third : UInt8} (le_first : 0xE0 ≤ first.toNat)
    (first_le : first.toNat ≤ 0xEF) (secondFollows : IsFollowing second)
    (thirdFollows : IsFollowing third) (notLong : first = 0xE0 → 0xA0 ≤ second.toNat)
    (noSurrogate : first = 0xED → second.toNat ≤ 0x9F) : IsSequence [first, second, third]
  | four {first second third fourth : UInt8} (le_first : 0xF0 ≤ first.toNat)
    (first_le : first.toNat ≤ 0xF4) (secondFollows : IsFollowing second)
    (thirdFollows : IsFollowing third) (fourthFollows : IsFollowing fourth)
    (notLong : first = 0xF0 → 0x90 ≤ second.toNat)
    (codePoint : first = 0xF4 → second.toNat ≤ 0x8F) : IsSequence [first, second, third, fourth]

/-- The bytes that are made of sequences. -/
inductive IsUtf8 : List UInt8 → Prop
  | nil : IsUtf8 []
  | append {sequence rest : List UInt8} (isSequence : IsSequence sequence) (isUtf8 : IsUtf8 rest) :
    IsUtf8 (sequence ++ rest)

theorem isSequence_utf8EncodeChar (character : Char) :
    IsSequence (String.utf8EncodeChar character) := by
  have valid : character.val.toNat < 0xD800 ∨
      0xDFFF < character.val.toNat ∧ character.val.toNat < 0x110000 := character.valid
  unfold String.utf8EncodeChar
  generalize character.val.toNat = code at valid
  dsimp only
  have byte (number : Nat) : (UInt8.ofNat number).toNat = number % 256 := UInt8.toNat_ofNat'
  split
  case isTrue one => exact .one (by rw [byte]; omega)
  case isFalse moreThanOne =>
    split
    case isTrue two =>
      refine .two ?_ ?_ ⟨?_, ?_⟩ <;> rw [byte] <;> omega
    case isFalse moreThanTwo =>
      split
      case isTrue three =>
        refine .three ?_ ?_ ⟨?_, ?_⟩ ⟨?_, ?_⟩ ?_ ?_ <;>
          simp only [byte, ← UInt8.toNat_inj, UInt8.reduceToNat] <;> omega
      case isFalse four =>
        refine .four ?_ ?_ ⟨?_, ?_⟩ ⟨?_, ?_⟩ ⟨?_, ?_⟩ ?_ ?_ <;>
          simp only [byte, ← UInt8.toNat_inj, UInt8.reduceToNat] <;> omega

/-- A sequence is the encoding of a character. -/
theorem exists_utf8EncodeChar_eq {sequence : List UInt8} (isSequence : IsSequence sequence) :
    ∃ character, String.utf8EncodeChar character = sequence := by
  have character (code : Nat) (valid : code.isValidChar) :
      ∃ character : Char, character.val.toNat = code := ⟨Char.ofNatAux code valid, rfl⟩
  have equal (byte : UInt8) {number : Nat} (same : number = byte.toNat) :
      UInt8.ofNat number = byte := by rw [same, UInt8.ofNat_toNat]
  cases isSequence with
  | @one first first_le =>
    obtain ⟨found, code⟩ := character first.toNat (.inl (by omega))
    refine ⟨found, ?_⟩
    unfold String.utf8EncodeChar
    rw [code, if_pos first_le, equal first rfl]
  | @two first second le_first first_le follows =>
    obtain ⟨least, greatest⟩ := follows
    obtain ⟨found, code⟩ := character ((first.toNat - 0xC0) * 64 + (second.toNat - 0x80))
      (.inl (by omega))
    refine ⟨found, ?_⟩
    unfold String.utf8EncodeChar
    rw [code, if_neg (by omega), if_pos (by omega), equal first (by omega),
      equal second (by omega)]
  | @three first second third le_first first_le secondFollows thirdFollows notLong noSurrogate =>
    obtain ⟨secondLeast, secondGreatest⟩ := secondFollows
    obtain ⟨thirdLeast, thirdGreatest⟩ := thirdFollows
    simp only [← UInt8.toNat_inj, UInt8.reduceToNat] at notLong noSurrogate
    obtain ⟨found, code⟩ := character ((first.toNat - 0xE0) * 4096 +
      (second.toNat - 0x80) * 64 + (third.toNat - 0x80)) (by unfold Nat.isValidChar; omega)
    refine ⟨found, ?_⟩
    unfold String.utf8EncodeChar
    rw [code, if_neg (by omega), if_neg (by omega), if_pos (by omega), equal first (by omega),
      equal second (by omega), equal third (by omega)]
  | @four first second third fourth le_first first_le secondFollows thirdFollows fourthFollows
      notLong codePoint =>
    obtain ⟨secondLeast, secondGreatest⟩ := secondFollows
    obtain ⟨thirdLeast, thirdGreatest⟩ := thirdFollows
    obtain ⟨fourthLeast, fourthGreatest⟩ := fourthFollows
    simp only [← UInt8.toNat_inj, UInt8.reduceToNat] at notLong codePoint
    obtain ⟨found, code⟩ := character ((first.toNat - 0xF0) * 262144 +
      (second.toNat - 0x80) * 4096 + (third.toNat - 0x80) * 64 + (fourth.toNat - 0x80))
      (by unfold Nat.isValidChar; omega)
    refine ⟨found, ?_⟩
    unfold String.utf8EncodeChar
    rw [code, if_neg (by omega), if_neg (by omega), if_neg (by omega), equal first (by omega),
      equal second (by omega), equal third (by omega), equal fourth (by omega)]

/-- The bytes that are made of sequences are the encodings of texts. -/
theorem isUtf8_iff (bytes : List UInt8) : IsUtf8 bytes ↔ ∃ text, encodeUtf8 text = bytes := by
  constructor
  · intro isUtf8
    suffices ∃ characters : List Char, characters.flatMap String.utf8EncodeChar = bytes by
      obtain ⟨characters, equal⟩ := this
      exact ⟨String.ofList characters, by rw [encodeUtf8_ofList, equal]⟩
    induction isUtf8 with
    | nil => exact ⟨[], rfl⟩
    | append isSequence _ inductionHypothesis =>
      obtain ⟨character, rfl⟩ := exists_utf8EncodeChar_eq isSequence
      obtain ⟨characters, rfl⟩ := inductionHypothesis
      exact ⟨character :: characters, rfl⟩
  · rintro ⟨text, rfl⟩
    rw [← String.ofList_toList (s := text), encodeUtf8_ofList]
    induction text.toList with
    | nil => exact .nil
    | cons character characters inductionHypothesis =>
      exact .append (isSequence_utf8EncodeChar character) inductionHypothesis

/-- Bytes are no text exactly if their decoding fails. -/
theorem not_isUtf8_iff (bytes : List UInt8) :
    ¬IsUtf8 bytes ↔ ∃ reason, decodeUtf8 bytes = .error reason := by
  rw [isUtf8_iff]
  cases decoded : decodeUtf8 bytes with
  | ok text =>
    have same := (decodeUtf8_eq_ok_iff _ _).mp decoded
    exact iff_of_false (not_not_intro ⟨text, same.symm⟩) fun ⟨_, equal⟩ => nomatch equal
  | error reason =>
    refine iff_of_true ?_ ⟨reason, rfl⟩
    rintro ⟨text, rfl⟩
    rw [decodeUtf8_encodeUtf8] at decoded
    cases decoded

/-! ### The characters of one byte -/

/-- What holds of the first characters one by one holds of each character that is one of them. -/
theorem of_forall_code (property : Char → Prop) (each : ∀ code < 128, property (Char.ofNat code))
    {character : Char} (small : character.toNat < 128) : property character := by
  have holds := each character.toNat small
  rwa [Char.ofNat_toNat] at holds

end SqlRecords.Text
