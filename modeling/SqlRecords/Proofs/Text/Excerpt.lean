/-
This file proves that an excerpt quotes as much of a text as its limit allows, in whole characters
and without white space at the end, and that nothing else meets this description.

The boundary that a long text is cut at is looked for among the bytes. The positions that such a
search takes for boundaries are the lengths of the beginnings of the text, since in the bytes of a
character all but the first one continue it. So the search ends at the longest beginning that the
limit allows; and as a character takes at most four bytes, it ends after at most three steps.
-/

import SqlRecords.Proofs.Text.Blank
import SqlRecords.Proofs.Text.Utf8
import SqlRecords.Text.Excerpt

namespace SqlRecords.Text

/-! ### Boundaries are the ends of beginnings -/

theorem isBoundary_iff (bytes : List UInt8) (position : Nat) :
    isBoundary bytes position = true ↔
      position = 0 ∨ position = bytes.length ∨ ∃ byte ∈ bytes[position]?, ¬IsFollowing byte := by
  unfold isBoundary IsFollowing
  rw [Bool.or_eq_true, beq_iff_eq]
  refine or_congr_right ?_
  cases found : bytes[position]? with
  | none => simp
  | some byte =>
    have within := (List.getElem?_eq_some_iff.mp found).1
    simp only [Bool.or_eq_true, decide_eq_true_eq, UInt8.lt_iff_toNat_lt, UInt8.le_iff_toNat_le,
      UInt8.reduceToNat, Option.mem_some_iff, exists_eq_left']
    omega

/-- Only the first byte of a sequence does not continue a character. -/
theorem exists_first_of_isSequence {sequence : List UInt8} (isSequence : IsSequence sequence) :
    ∃ first following, sequence = first :: following ∧ ¬IsFollowing first ∧
      ∀ byte ∈ following, IsFollowing byte := by
  have apart {byte : UInt8} (outside : byte.toNat ≤ 0x7F ∨ 0xC0 ≤ byte.toNat) :
      ¬IsFollowing byte := by
    rintro ⟨least, greatest⟩
    omega
  cases isSequence with
  | one first_le => exact ⟨_, _, rfl, apart (.inl first_le), List.forall_mem_nil _⟩
  | two le_first _ follows =>
    refine ⟨_, _, rfl, apart (.inr (by omega)), ?_⟩
    simp [follows]
  | three le_first _ secondFollows thirdFollows =>
    refine ⟨_, _, rfl, apart (.inr (by omega)), ?_⟩
    simp [secondFollows, thirdFollows]
  | four le_first _ secondFollows thirdFollows fourthFollows =>
    refine ⟨_, _, rfl, apart (.inr (by omega)), ?_⟩
    simp [secondFollows, thirdFollows, fourthFollows]

theorem encodeUtf8_ofList_cons (character : Char) (characters : List Char) :
    encodeUtf8 (String.ofList (character :: characters)) =
      String.utf8EncodeChar character ++ encodeUtf8 (String.ofList characters) := by
  rw [encodeUtf8_ofList, encodeUtf8_ofList, List.flatMap_cons]

theorem not_isFollowing_of_mem_head? (characters : List Char) :
    ∀ byte ∈ (encodeUtf8 (String.ofList characters)).head?, ¬IsFollowing byte := by
  intro byte isFirst
  cases characters with
  | nil => cases isFirst
  | cons character rest =>
    obtain ⟨first, following, sequence, leads, _⟩ :=
      exists_first_of_isSequence (isSequence_utf8EncodeChar character)
    rw [encodeUtf8_ofList_cons, sequence] at isFirst
    cases isFirst
    exact leads

theorem isBoundary_append {front rest : List UInt8}
    (leads : ∀ byte ∈ rest.head?, ¬IsFollowing byte) (later : Nat) :
    isBoundary (front ++ rest) (front.length + later) = true ↔ isBoundary rest later = true := by
  rw [isBoundary_iff, isBoundary_iff, List.getElem?_append_right (Nat.le_add_right _ _),
    Nat.add_sub_cancel_left, List.length_append, Nat.add_left_cancel_iff]
  constructor
  · rintro (start | behind)
    · exact .inl (Nat.eq_zero_of_add_eq_zero_left start)
    · exact .inr behind
  · rintro (rfl | behind)
    · cases rest with
      | nil => exact .inr (.inl rfl)
      | cons byte others => exact .inr (.inr ⟨byte, rfl, leads byte rfl⟩)
    · exact .inr behind

theorem isBoundary_inside {character : Char} {rest : List UInt8} {position : Nat}
    (positive : position ≠ 0) (inside : position < character.utf8Size) :
    isBoundary (String.utf8EncodeChar character ++ rest) position = false := by
  obtain ⟨first, following, sequence, _, continued⟩ :=
    exists_first_of_isSequence (isSequence_utf8EncodeChar character)
  rw [← String.length_utf8EncodeChar] at inside
  refine eq_false_of_ne_true fun boundary => ?_
  rw [isBoundary_iff, List.getElem?_append_left inside, List.length_append] at boundary
  rcases boundary with start | atEnd | ⟨byte, stands, leads⟩
  · exact positive start
  · omega
  · obtain ⟨previous, rfl⟩ := Nat.exists_eq_succ_of_ne_zero positive
    rw [sequence, List.getElem?_cons_succ] at stands
    exact leads (continued byte (List.mem_of_getElem? stands))

/-- Behind a beginning of a text there is a boundary. -/
theorem isBoundary_encodeUtf8_append (front rest : String) :
    isBoundary (encodeUtf8 (front ++ rest)) front.utf8ByteSize = true := by
  have leads := not_isFollowing_of_mem_head? rest.toList
  rw [String.ofList_toList] at leads
  rw [encodeUtf8_append, ← length_encodeUtf8]
  exact (isBoundary_append leads 0).mpr rfl

/-- In front of a boundary there is a beginning of the text. -/
theorem exists_append_of_isBoundary {text : String} {position : Nat}
    (boundary : isBoundary (encodeUtf8 text) position = true) :
    ∃ front rest, text = front ++ rest ∧ front.utf8ByteSize = position := by
  obtain ⟨characters, rfl⟩ : ∃ characters, text = String.ofList characters :=
    ⟨text.toList, String.ofList_toList.symm⟩
  induction characters generalizing position with
  | nil =>
    cases position with
    | zero => exact ⟨"", "", rfl, rfl⟩
    | succ previous => cases boundary
  | cons character rest inductionHypothesis =>
    rw [encodeUtf8_ofList_cons] at boundary
    by_cases start : position = 0
    · exact ⟨"", _, String.empty_append.symm, start.symm⟩
    · rcases Nat.lt_or_ge position character.utf8Size with inside | behind
      · rw [isBoundary_inside start inside] at boundary
        cases boundary
      · obtain ⟨later, rfl⟩ := Nat.exists_eq_add_of_le behind
        rw [← String.length_utf8EncodeChar,
          isBoundary_append (not_isFollowing_of_mem_head? rest)] at boundary
        obtain ⟨front, behind, cut, size⟩ := inductionHypothesis boundary
        refine ⟨String.singleton character ++ front, behind, ?_, ?_⟩
        · rw [String.ofList_cons, cut, String.append_assoc]
        · rw [String.utf8ByteSize_append, String.utf8ByteSize_singleton, size]

/-! ### The search -/

/-- A search that is on a boundary ends there. -/
theorem boundaryUpTo?_of_isBoundary {bytes : List UInt8} {position : Nat}
    (boundary : isBoundary bytes position = true) :
    boundaryUpTo? bytes position = some position := by
  unfold boundaryUpTo?
  rw [if_pos boundary]

/-- A search that is on no boundary goes one step back. -/
theorem boundaryUpTo?_succ {bytes : List UInt8} {previous : Nat}
    (inside : isBoundary bytes (previous + 1) = false) :
    boundaryUpTo? bytes (previous + 1) = boundaryUpTo? bytes previous := by
  rw [boundaryUpTo?, if_neg (ne_true_of_eq_false inside)]

/-- A search ends at the first boundary on its way back, at the latest at the start. -/
theorem exists_boundaryUpTo?_eq_some (bytes : List UInt8) (position : Nat) :
    ∃ steps ≤ position, boundaryUpTo? bytes position = some (position - steps) ∧
      isBoundary bytes (position - steps) = true ∧
      ∀ fewer < steps, isBoundary bytes (position - fewer) = false := by
  induction position with
  | zero => exact ⟨0, Nat.le_refl 0, rfl, rfl, fun _ => nofun⟩
  | succ previous inductionHypothesis =>
    cases boundary : isBoundary bytes (previous + 1) with
    | true =>
      exact ⟨0, Nat.zero_le _, boundaryUpTo?_of_isBoundary boundary, boundary, fun _ => nofun⟩
    | false =>
      obtain ⟨steps, inRange, ended, stands, passed⟩ := inductionHypothesis
      refine ⟨steps + 1, Nat.succ_le_succ inRange, ?_, ?_, fun fewer less => ?_⟩
      · rw [boundaryUpTo?_succ boundary, ended, Nat.add_sub_add_right]
      · rwa [Nat.add_sub_add_right]
      · cases fewer with
        | zero => exact boundary
        | succ fewer =>
          rw [Nat.add_sub_add_right]
          exact passed fewer (Nat.lt_of_succ_lt_succ less)

/-! ### The longest beginning -/

/-- The longest beginning of a text, in whole characters, that takes at most the given number of
bytes. -/
structure IsLongestBeginning (room : Nat) (text beginning : String) : Prop where
  begins : ∃ rest, text = beginning ++ rest
  fits : beginning.utf8ByteSize ≤ room
  longest : ∀ other rest, text = other ++ rest → other.utf8ByteSize ≤ room →
    other.utf8ByteSize ≤ beginning.utf8ByteSize

theorem IsLongestBeginning.unique {room : Nat} {text first second : String}
    (one : IsLongestBeginning room text first) (other : IsLongestBeginning room text second) :
    first = second := by
  obtain ⟨behindFirst, cutFirst⟩ := one.begins
  obtain ⟨behindSecond, cutSecond⟩ := other.begins
  have size : (encodeUtf8 first).length = (encodeUtf8 second).length := by
    rw [length_encodeUtf8, length_encodeUtf8]
    exact Nat.le_antisymm (other.longest first _ cutFirst one.fits)
      (one.longest second _ cutSecond other.fits)
  have same := congrArg encodeUtf8 (cutFirst.symm.trans cutSecond)
  rw [encodeUtf8_append, encodeUtf8_append] at same
  exact encodeUtf8_injective (List.append_inj_left same size)

/-- Less than a character of four bytes is missing to what a text could fill. -/
theorem IsLongestBeginning.le_add_three {room : Nat} {text beginning : String}
    (longest : IsLongestBeginning room text beginning) (inside : room ≤ text.utf8ByteSize) :
    room ≤ beginning.utf8ByteSize + 3 := by
  obtain ⟨rest, cut⟩ := longest.begins
  cases characters : rest.toList with
  | nil =>
    obtain rfl := String.toList_eq_nil_iff.mp characters
    rw [cut, String.append_empty] at inside
    exact Nat.le_add_right_of_le inside
  | cons character others =>
    have next : text = (beginning ++ String.singleton character) ++ String.ofList others := by
      rw [cut, String.append_assoc, ← String.ofList_cons, ← characters, String.ofList_toList]
    have tooLong := longest.longest _ _ next
    rw [String.utf8ByteSize_append, String.utf8ByteSize_singleton] at tooLong
    have positive := character.utf8Size_pos
    have atMostFour := character.utf8Size_le_four
    omega

theorem beginning?_eq_some {room boundary : Nat} {text beginning : String}
    (ended : boundaryUpTo? (encodeUtf8 text) room = some boundary)
    (decoded : decodeUtf8 ((encodeUtf8 text).take boundary) = .ok beginning) :
    beginning? room text = some beginning := by
  unfold beginning?
  rw [ended]
  show (decodeUtf8 ((encodeUtf8 text).take boundary)).toOption = _
  rw [decoded]
  rfl

/-- From any number of bytes on, the search ends behind the longest beginning, and it passes no other
boundary on its way there. -/
theorem exists_longestBeginning (room : Nat) (text : String) :
    ∃ steps ≤ room, ∃ beginning, IsLongestBeginning room text beginning ∧
      beginning? room text = some beginning ∧ beginning.utf8ByteSize + steps = room ∧
      boundaryUpTo? (encodeUtf8 text) room = some (room - steps) ∧
      ∀ fewer < steps, isBoundary (encodeUtf8 text) (room - fewer) = false := by
  obtain ⟨steps, inRange, ended, stands, passed⟩ := exists_boundaryUpTo?_eq_some (encodeUtf8 text) room
  obtain ⟨beginning, rest, cut, size⟩ := exists_append_of_isBoundary stands
  -- Behind a longer beginning there would be a boundary that the search has passed.
  have longest (other behind : String) (otherCut : text = other ++ behind)
      (fits : other.utf8ByteSize ≤ room) : other.utf8ByteSize ≤ beginning.utf8ByteSize := by
    refine Nat.le_of_not_lt fun longer => ?_
    have boundary := isBoundary_encodeUtf8_append other behind
    have inside := passed (room - other.utf8ByteSize) (by omega)
    rw [Nat.sub_sub_self fits, otherCut, boundary] at inside
    cases inside
  have decoded : decodeUtf8 ((encodeUtf8 text).take (room - steps)) = .ok beginning := by
    rw [cut, ← size, decodeUtf8_take_append]
  refine ⟨steps, inRange, beginning, ⟨⟨rest, cut⟩, ?_, longest⟩, beginning?_eq_some ended decoded,
    ?_, ended, passed⟩
  · rw [size]
    exact Nat.sub_le room steps
  · rw [size]
    exact Nat.sub_add_cancel inRange

-- Three bytes of the last character still fit, but not all four.
example : beginning? 6 "a\u00A0😀" = some "a\u00A0" := by
  cbv

/-! ### White space at the end -/

/-- A text without the white space at its end: nothing but white space is gone, and none is left at
the end. -/
structure IsTrimmed (text trimmed : String) : Prop where
  behind : ∃ blanks, text = trimmed ++ blanks ∧
    ∀ character ∈ blanks.toList, isBlank character = true
  last : ∀ character ∈ trimmed.toList.getLast?, isBlank character = false

theorem isTrimmed_trimEnd (text : String) : IsTrimmed text (trimEnd text) := by
  obtain ⟨blanks, cut, blank⟩ := exists_behind_dropEnd isBlank text.toList
  refine ⟨⟨String.ofList blanks, ?_, by rwa [String.toList_ofList]⟩, ?_⟩
  · unfold trimEnd
    rw [← String.ofList_append, ← cut, String.ofList_toList]
  · unfold trimEnd
    rw [String.toList_ofList]
    exact kept_of_mem_getLast?_dropEnd isBlank text.toList

theorem IsTrimmed.eq_trimEnd {text trimmed : String} (isTrimmed : IsTrimmed text trimmed) :
    trimmed = trimEnd text := by
  obtain ⟨blanks, rfl, blank⟩ := isTrimmed.behind
  unfold trimEnd
  rw [String.toList_append, dropEnd_append blank isTrimmed.last, String.ofList_toList]

theorem IsTrimmed.size_le {text trimmed : String} (isTrimmed : IsTrimmed text trimmed) :
    trimmed.utf8ByteSize ≤ text.utf8ByteSize := by
  obtain ⟨blanks, rfl, _⟩ := isTrimmed.behind
  rw [String.utf8ByteSize_append]
  exact Nat.le_add_right _ _

/-! ### Excerpts -/

/-- What quotes a text within a limit: the text, if it is not longer, and otherwise its longest
beginning with three dots behind it, both without the white space at the end. -/
inductive IsExcerpt (limit : Nat) (text : String) : String → Prop
  | whole {shown : String} (short : text.utf8ByteSize ≤ limit) (trimmed : IsTrimmed text shown) :
    IsExcerpt limit text shown
  | cut {beginning shown : String} (long : limit < text.utf8ByteSize)
    (longest : IsLongestBeginning limit text beginning) (trimmed : IsTrimmed beginning shown) :
    IsExcerpt limit text (shown ++ "...")

theorem IsExcerpt.size_le {limit : Nat} {text shown : String}
    (isExcerpt : IsExcerpt limit text shown) : shown.utf8ByteSize ≤ limit + 3 := by
  cases isExcerpt with
  | whole short trimmed => exact Nat.le_add_right_of_le (Nat.le_trans trimmed.size_le short)
  | cut _ longest trimmed =>
    rw [String.utf8ByteSize_append]
    exact Nat.add_le_add_right (Nat.le_trans trimmed.size_le longest.fits) 3

theorem IsExcerpt.unique {limit : Nat} {text first second : String}
    (one : IsExcerpt limit text first) (other : IsExcerpt limit text second) : first = second := by
  cases one with
  | whole short trimmed =>
    cases other with
    | whole _ otherTrimmed => exact trimmed.eq_trimEnd.trans otherTrimmed.eq_trimEnd.symm
    | cut long => exact absurd long (Nat.not_lt.mpr short)
  | cut long longest trimmed =>
    cases other with
    | whole short => exact absurd long (Nat.not_lt.mpr short)
    | cut _ otherLongest otherTrimmed =>
      rw [trimmed.eq_trimEnd, otherTrimmed.eq_trimEnd, longest.unique otherLongest]

theorem isExcerpt_excerpt (text : String) : IsExcerpt excerptLimit text (excerpt text) := by
  unfold excerpt
  split
  case isTrue short => exact .whole short (isTrimmed_trimEnd text)
  case isFalse long =>
    obtain ⟨_, _, beginning, longest, found, _⟩ := exists_longestBeginning excerptLimit text
    rw [found]
    exact .cut (Nat.lt_of_not_le long) longest (isTrimmed_trimEnd beginning)

/-- An excerpt is the one text that quotes a text within the limit, and never takes more than the
limit and three dots. Where the text is longer than the limit, the search for the boundary to cut it
at succeeds after at most three steps, and no character is cut. -/
theorem excerpt_quotes_longest_beginning (text : String) :
    (∀ shown, shown = excerpt text ↔ IsExcerpt 497 text shown) ∧
    (excerpt text).utf8ByteSize ≤ 500 ∧
    (497 < text.utf8ByteSize →
      ∃ steps ≤ 3, ∃ beginning, IsLongestBeginning 497 text beginning ∧
        beginning? 497 text = some beginning ∧
        boundaryUpTo? (encodeUtf8 text) 497 = some (497 - steps) ∧
        ∀ fewer < steps, isBoundary (encodeUtf8 text) (497 - fewer) = false) := by
  have own : IsExcerpt 497 text (excerpt text) := isExcerpt_excerpt text
  refine ⟨fun shown => ⟨fun same => same ▸ own, fun other => other.unique own⟩, own.size_le, ?_⟩
  intro long
  obtain ⟨steps, _, beginning, longest, found, size, ended, passed⟩ :=
    exists_longestBeginning 497 text
  have few := longest.le_add_three (Nat.le_of_lt long)
  exact ⟨steps, by omega, beginning, longest, found, ended, passed⟩

/-- A text in which the limit falls on the last byte of a character of four bytes. White space is in
front of that character. -/
def cutInsideCharacter : String :=
  String.ofList (List.replicate 492 'x' ++ ['\u00A0', '😀'])

theorem utf8ByteSize_cutInsideCharacter : cutInsideCharacter.utf8ByteSize = 498 := by
  unfold cutInsideCharacter
  rw [← length_encodeUtf8, encodeUtf8_ofList, List.length_flatMap, List.map_append,
    List.map_replicate, List.sum_append, List.sum_replicate_nat]
  rfl

theorem excerpt_quotes_longest_beginning_cutInsideCharacter :
    497 < cutInsideCharacter.utf8ByteSize ∧
    ∃ steps ≤ 3, ∃ beginning, IsLongestBeginning 497 cutInsideCharacter beginning ∧
      beginning? 497 cutInsideCharacter = some beginning ∧
      boundaryUpTo? (encodeUtf8 cutInsideCharacter) 497 = some (497 - steps) ∧
      ∀ fewer < steps, isBoundary (encodeUtf8 cutInsideCharacter) (497 - fewer) = false := by
  have long : 497 < cutInsideCharacter.utf8ByteSize := by
    rw [utf8ByteSize_cutInsideCharacter]
    decide
  exact ⟨long, (excerpt_quotes_longest_beginning cutInsideCharacter).2.2 long⟩

end SqlRecords.Text
