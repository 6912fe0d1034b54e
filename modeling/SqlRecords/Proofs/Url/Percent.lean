/-
This file compares percent-encoded texts with the bytes that they stand for. What an encoding does
not keep is written as bytes, and they are read back. What it keeps is read as it was, unless it
looks like such a byte itself: the percent sign is kept everywhere, so a percent sign that two hex
digits follow is read as a byte which nobody wrote.

A text without escapes of its own therefore comes back from its encoding, and any other text comes
back too short.
-/

import SqlRecords.Proofs.Text.Utf8
import SqlRecords.Url.Percent

namespace SqlRecords.Url

variable {character first second : Char} {rest characters : List Char} {kept : Char → Bool}

/-! ### Escapes -/

/-- Whether a character is a hex digit. -/
def IsHexDigit (character : Char) : Prop :=
  (Text.hexDigit? character).isSome = true

instance (character : Char) : Decidable (IsHexDigit character) :=
  inferInstanceAs (Decidable (_ = true))

/-- Whether a text begins with two hex digits, which are a byte behind a percent sign. -/
def StartsWithByte : List Char → Prop
  | first :: second :: _ => IsHexDigit first ∧ IsHexDigit second
  | _ => False

/-- Whether two hex digits follow a percent sign somewhere in a text. -/
def HasEscape (characters : List Char) : Prop :=
  ∃ first second, IsHexDigit first ∧ IsHexDigit second ∧ ['%', first, second] <:+: characters

theorem not_hasEscape_nil : ¬HasEscape [] := by
  rintro ⟨first, second, -, -, inside⟩
  exact List.cons_ne_nil _ _ (List.infix_nil.mp inside)

theorem hasEscape_cons_iff : HasEscape (character :: rest) ↔
    (character = '%' ∧ StartsWithByte rest) ∨ HasEscape rest := by
  constructor
  · rintro ⟨first, second, isFirst, isSecond, inside⟩
    rcases List.infix_cons_iff.mp inside with atStart | later
    · obtain ⟨after, equal⟩ := atStart
      cases equal
      exact .inl ⟨rfl, isFirst, isSecond⟩
    · exact .inr ⟨first, second, isFirst, isSecond, later⟩
  · rintro (⟨rfl, starts⟩ | ⟨first, second, isFirst, isSecond, inside⟩)
    · match rest, starts with
      | first :: second :: after, ⟨isFirst, isSecond⟩ =>
        exact ⟨first, second, isFirst, isSecond, ⟨[], after, rfl⟩⟩
    · exact ⟨first, second, isFirst, isSecond, List.infix_cons inside⟩

theorem HasEscape.of_isInfix (hasEscape : HasEscape rest) (inside : rest <:+: characters) :
    HasEscape characters := by
  obtain ⟨first, second, isFirst, isSecond, escape⟩ := hasEscape
  exact ⟨first, second, isFirst, isSecond, escape.trans inside⟩

theorem not_hasEscape_of_not_mem (absent : '%' ∉ characters) : ¬HasEscape characters := by
  rintro ⟨first, second, -, -, escape⟩
  exact absent (escape.subset List.mem_cons_self)

/-- A text is empty, or it begins with an escape, or with a character that begins none. -/
@[elab_as_elim]
theorem escape_induction {motive : List Char → Prop} (nil : motive [])
    (escape : ∀ first second high low rest, Text.hexDigit? first = some high →
      Text.hexDigit? second = some low → motive rest → motive ('%' :: first :: second :: rest))
    (plain : ∀ character rest, ¬(character = '%' ∧ StartsWithByte rest) → motive rest →
      motive (character :: rest)) (characters : List Char) : motive characters := by
  fun_induction decodeBytes characters with
  | case1 => exact nil
  | case2 first second rest high low isSecond isFirst inductionHypothesis =>
    exact escape first second high low rest isFirst isSecond inductionHypothesis
  | case3 first second rest notBoth inductionHypothesis =>
    refine plain '%' (first :: second :: rest) ?_ inductionHypothesis
    rintro ⟨-, isFirst, isSecond⟩
    obtain ⟨high, firstValue⟩ := Option.isSome_iff_exists.mp isFirst
    obtain ⟨low, secondValue⟩ := Option.isSome_iff_exists.mp isSecond
    exact notBoth high low firstValue secondValue
  | case4 character rest noneFollow inductionHypothesis =>
    refine plain character rest ?_ inductionHypothesis
    rintro ⟨isPercent, starts⟩
    match rest, starts with
    | first :: second :: after, _ => exact noneFollow first second after isPercent rfl

/-! ### Decoding step by step -/

theorem decodeBytes_escape {high low : Nat} (isFirst : Text.hexDigit? first = some high)
    (isSecond : Text.hexDigit? second = some low) :
    decodeBytes ('%' :: first :: second :: rest) =
      UInt8.ofNat (16 * high + low) :: decodeBytes rest := by
  rw [decodeBytes, isFirst, isSecond]

/-- A character that begins no escape stands for itself. -/
theorem decodeBytes_plain (noEscape : ¬(character = '%' ∧ StartsWithByte rest)) :
    decodeBytes (character :: rest) = String.utf8EncodeChar character ++ decodeBytes rest := by
  generalize whole : character :: rest = characters
  fun_cases decodeBytes characters with
  | case1 => cases whole
  | case2 first second rest high low isSecond isFirst =>
    cases whole
    have isByte : IsHexDigit first ∧ IsHexDigit second :=
      ⟨Option.isSome_of_eq_some isFirst, Option.isSome_of_eq_some isSecond⟩
    exact absurd ⟨rfl, isByte⟩ noEscape
  | case3 | case4 =>
    cases whole
    rfl

/-! ### Decoding what was encoded -/

theorem hexDigit?_upperHexDigit {digit : Nat} (small : digit < 16) :
    Text.hexDigit? (upperHexDigit digit) = some digit := by
  have each : ∀ digit < 16, Text.hexDigit? (upperHexDigit digit) = some digit := by decide
  exact each digit small

theorem decodeBytes_encodeByte (byte : UInt8) (rest : List Char) :
    decodeBytes (encodeByte byte ++ rest) = byte :: decodeBytes rest := by
  have small : byte.toNat < 256 := byte.toNat_lt
  have equal : 16 * (byte.toNat / 16) + byte.toNat % 16 = byte.toNat := Nat.div_add_mod _ 16
  have decodes : decodeBytes (encodeByte byte ++ rest) = _ :: decodeBytes rest :=
    decodeBytes_escape (hexDigit?_upperHexDigit (by omega)) (hexDigit?_upperHexDigit (by omega))
  rw [decodes, equal, UInt8.ofNat_toNat]

theorem decodeBytes_flatMap_encodeByte (bytes : List UInt8) (rest : List Char) :
    decodeBytes (bytes.flatMap encodeByte ++ rest) = bytes ++ decodeBytes rest := by
  induction bytes with
  | nil => rfl
  | cons byte bytes inductionHypothesis =>
    rw [List.flatMap_cons, List.append_assoc, decodeBytes_encodeByte, inductionHypothesis]
    rfl

theorem percentEncode_cons_kept (isKept : kept character = true) :
    percentEncode kept (character :: rest) = character :: percentEncode kept rest := by
  rw [percentEncode, List.flatMap_cons, encodeCharacter, if_pos isKept]
  rfl

theorem percentEncode_cons_encoded (isEncoded : kept character = false) :
    percentEncode kept (character :: rest) =
      (String.utf8EncodeChar character).flatMap encodeByte ++ percentEncode kept rest := by
  rw [percentEncode, List.flatMap_cons, encodeCharacter, isEncoded]
  rfl

theorem percentEncode_of_forall (allKept : ∀ character ∈ characters, kept character = true) :
    percentEncode kept characters = characters := by
  induction characters with
  | nil => rfl
  | cons character rest inductionHypothesis =>
    obtain ⟨isKept, restKept⟩ := List.forall_mem_cons.mp allKept
    rw [percentEncode_cons_kept isKept, inductionHypothesis restKept]

/-- A hex digit at the start of an encoding was kept. -/
theorem exists_of_percentEncode_eq_cons (isDigit : IsHexDigit first)
    (starts : percentEncode kept characters = first :: rest) :
    ∃ after, characters = first :: after ∧ rest = percentEncode kept after := by
  cases characters with
  | nil => cases starts
  | cons character after =>
    cases isKept : kept character with
    | true =>
      rw [percentEncode_cons_kept isKept] at starts
      cases starts
      exact ⟨after, rfl, rfl⟩
    | false =>
      rw [percentEncode_cons_encoded isKept] at starts
      cases bytes : String.utf8EncodeChar character with
      | nil => exact absurd bytes String.utf8EncodeChar_ne_nil
      | cons byte bytes =>
        rw [bytes] at starts
        cases starts
        exact absurd isDigit (by decide)

theorem startsWithByte_of_percentEncode
    (starts : StartsWithByte (percentEncode kept characters)) : StartsWithByte characters := by
  generalize encodes : percentEncode kept characters = encoding at starts
  match encoding, starts with
  | first :: second :: rest, ⟨isFirst, isSecond⟩ =>
    obtain ⟨after, rfl, encodesAfter⟩ := exists_of_percentEncode_eq_cons isFirst encodes
    obtain ⟨rest, rfl, -⟩ := exists_of_percentEncode_eq_cons isSecond encodesAfter.symm
    exact ⟨isFirst, isSecond⟩

/-- An encoding that keeps escapes stands for the same bytes as the text. -/
theorem decodeBytes_percentEncode (keepsPercent : kept '%' = true)
    (keepsDigits : ∀ digit, IsHexDigit digit → kept digit = true) (characters : List Char) :
    decodeBytes (percentEncode kept characters) = decodeBytes characters := by
  induction characters using escape_induction with
  | nil => rfl
  | escape first second high low rest isFirst isSecond inductionHypothesis =>
    rw [percentEncode_cons_kept keepsPercent,
      percentEncode_cons_kept (keepsDigits first (Option.isSome_of_eq_some isFirst)),
      percentEncode_cons_kept (keepsDigits second (Option.isSome_of_eq_some isSecond)),
      decodeBytes_escape isFirst isSecond, decodeBytes_escape isFirst isSecond,
      inductionHypothesis]
  | plain character rest noEscape inductionHypothesis =>
    rw [decodeBytes_plain noEscape]
    cases isKept : kept character with
    | true =>
      have stillNone : ¬(character = '%' ∧ StartsWithByte (percentEncode kept rest)) :=
        fun both => noEscape ⟨both.1, startsWithByte_of_percentEncode both.2⟩
      rw [percentEncode_cons_kept isKept, decodeBytes_plain stillNone, inductionHypothesis]
    | false =>
      rw [percentEncode_cons_encoded isKept, decodeBytes_flatMap_encodeByte, inductionHypothesis]

/-! ### Texts without escapes -/

/-- The bytes of the characters of a text. -/
def ownBytes (characters : List Char) : List UInt8 :=
  characters.flatMap String.utf8EncodeChar

theorem ownBytes_cons (character : Char) (rest : List Char) :
    ownBytes (character :: rest) = String.utf8EncodeChar character ++ ownBytes rest :=
  List.flatMap_cons

theorem ownBytes_toList (text : String) : ownBytes text.toList = Text.encodeUtf8 text := by
  have same := Text.encodeUtf8_ofList text.toList
  rw [String.ofList_toList] at same
  exact same.symm

theorem length_ownBytes_lt (character : Char) (rest : List Char) :
    (ownBytes rest).length < (ownBytes (character :: rest)).length := by
  have positive := character.utf8Size_pos
  rw [ownBytes_cons, List.length_append, String.length_utf8EncodeChar]
  omega

theorem length_decodeBytes_le (characters : List Char) :
    (decodeBytes characters).length ≤ (ownBytes characters).length := by
  induction characters using escape_induction with
  | nil => exact Nat.le_refl _
  | escape first second high low rest isFirst isSecond inductionHypothesis =>
    have behindSecond := length_ownBytes_lt second rest
    have behindFirst := length_ownBytes_lt first (second :: rest)
    have behindPercent := length_ownBytes_lt '%' (first :: second :: rest)
    rw [decodeBytes_escape isFirst isSecond, List.length_cons]
    omega
  | plain character rest noEscape inductionHypothesis =>
    rw [decodeBytes_plain noEscape, ownBytes_cons, List.length_append, List.length_append]
    exact Nat.add_le_add_left inductionHypothesis _

/-- Escapes make a text stand for fewer bytes than it has. -/
theorem length_decodeBytes_lt (hasEscape : HasEscape characters) :
    (decodeBytes characters).length < (ownBytes characters).length := by
  induction characters using escape_induction with
  | nil => exact absurd hasEscape not_hasEscape_nil
  | escape first second high low rest isFirst isSecond =>
    have further := length_decodeBytes_le rest
    have behindSecond := length_ownBytes_lt second rest
    have behindFirst := length_ownBytes_lt first (second :: rest)
    have behindPercent := length_ownBytes_lt '%' (first :: second :: rest)
    rw [decodeBytes_escape isFirst isSecond, List.length_cons]
    omega
  | plain character rest noEscape inductionHypothesis =>
    have later := (hasEscape_cons_iff.mp hasEscape).resolve_left noEscape
    rw [decodeBytes_plain noEscape, ownBytes_cons, List.length_append, List.length_append]
    exact Nat.add_lt_add_left (inductionHypothesis later) _

theorem decodeBytes_eq_ownBytes (noEscape : ¬HasEscape characters) :
    decodeBytes characters = ownBytes characters := by
  induction characters with
  | nil => rfl
  | cons character rest inductionHypothesis =>
    rw [hasEscape_cons_iff, not_or] at noEscape
    rw [decodeBytes_plain noEscape.1, inductionHypothesis noEscape.2, ownBytes_cons]

/-- A text stands for its own bytes exactly if it has no escapes. -/
theorem decodeBytes_eq_iff (characters : List Char) :
    decodeBytes characters = ownBytes characters ↔ ¬HasEscape characters := by
  refine ⟨fun equal hasEscape => ?_, decodeBytes_eq_ownBytes⟩
  exact Nat.ne_of_lt (length_decodeBytes_lt hasEscape) (congrArg List.length equal)

/-! ### Parts of urls -/

theorem toNat_lt_of_isHexDigit (isDigit : IsHexDigit character) : character.toNat < 128 := by
  unfold IsHexDigit Text.hexDigit? at isDigit
  split at isDigit
  case isTrue decimal =>
    have most := (Char.isDigit_iff_toNat.mp decimal).2
    exact Nat.lt_of_le_of_lt most (by decide)
  case isFalse =>
    split at isDigit
    case isTrue lower => exact Nat.lt_of_le_of_lt lower.2 (by decide)
    case isFalse =>
      split at isDigit
      case isTrue upper => exact Nat.lt_of_le_of_lt upper.2 (by decide)
      case isFalse => cases isDigit

theorem kept_of_isHexDigit (isDigit : IsHexDigit character) :
    keptInUser character = true ∧ keptInPath character = true :=
  Text.of_forall_code (fun character => IsHexDigit character →
    keptInUser character = true ∧ keptInPath character = true) (by decide)
    (toNat_lt_of_isHexDigit isDigit) isDigit

theorem decodeBytes_percentEncode_path (path : List Char) :
    decodeBytes (percentEncode keptInPath path) = decodeBytes path :=
  decodeBytes_percentEncode (by decide) (fun _ isDigit => (kept_of_isHexDigit isDigit).2) path

/-- The user and the password of a url stand for the texts that were set exactly if those have no
escapes. -/
theorem decodeBytes_user_eq_iff (text : String) :
    decodeBytes (percentEncode keptInUser text.toList) = Text.encodeUtf8 text ↔
      ¬HasEscape text.toList := by
  rw [decodeBytes_percentEncode (by decide) fun _ isDigit => (kept_of_isHexDigit isDigit).1,
    ← ownBytes_toList]
  exact decodeBytes_eq_iff text.toList

end SqlRecords.Url
