/-
This file says which dates and times are read back from their own texts. Dates all are. The text of
a time has its hour as it is, and the spellings ask for two digits, so a time before ten in the
morning is refused and every later one is read back, alone or behind a date. The text of a zoned
date-time is never read back: it has a blank before its clock and another one before its offset,
and nothing that is read has two.

That a text is refused is shown by the blanks it has, as marks of a spelling or of a time stamp.
-/

import SqlRecords.Proofs.Calendar.Spelling

namespace SqlRecords.Calendar

/-- A time stamp has no blank but the one that may stand before its clock. -/
theorem count_blank_of_readStamp {characters : List Char} {zoned : ZonedDateTime}
    (read : readStamp characters = some zoned) : characters.count ' ' ≤ 1 := by
  obtain ⟨separator, ending, listed, marks⟩ := count_of_readStamp read
  have noBlank : ending ≠ ' ' := by
    rintro rfl
    exact absurd listed (by decide)
  rw [marks ' ' rfl (by decide), List.count_cons, List.count_cons_of_ne (by decide),
    List.count_cons_of_ne (by decide), List.count_cons_of_ne noBlank, List.count_nil]
  split <;> decide

/-! ### Times of day -/

section Clocks

variable {time : Time} {moment : DateTime}

/-- The text of a time differs in its hour alone from one with two digits for it, which says the
time exactly. -/
theorem exists_characters_eq (time : Time) :
    ∃ digits rest, digits ≤ 9 ∧ 10 ^ (9 - digits) ∣ time.nanosecond ∧
      clockText time digits = Text.zeroPadded 2 time.hour ++ ':' :: rest ∧
      time.characters = Nat.toDigits 10 time.hour ++ ':' :: rest := by
  obtain ⟨dropped, less, divides, equal⟩ :=
    exists_dropEndZeros_zeroPadded (by decide : 0 < 9) time.nanosecond_lt
  have back : 9 - (9 - dropped) = dropped := Nat.sub_sub_self (Nat.le_of_lt less)
  refine ⟨9 - dropped, Text.zeroPadded 2 time.minute ++ ':' :: (Text.zeroPadded 2 time.second ++
    '.' :: Text.zeroPadded (9 - dropped) (time.nanosecond / 10 ^ dropped)), Nat.sub_le _ _,
    back.symm ▸ divides, ?_, ?_⟩
  · unfold clockText
    rw [if_neg (Nat.sub_ne_zero_of_lt less), back]
    simp only [List.append_assoc, List.nil_append, List.cons_append]
  · unfold Time.characters
    rw [equal]
    simp only [List.append_assoc, List.nil_append, List.cons_append]

theorem zeroPadded_hour (late : 10 ≤ time.hour) :
    Text.zeroPadded 2 time.hour = Nat.toDigits 10 time.hour := by
  refine zeroPadded_of_le (Nat.lt_of_not_le fun short => ?_)
  have small := (Nat.length_toDigits_le_iff (by decide : 1 < 10) (by decide : 0 < 1)).mp short
  omega

/-- From ten on, the text of a time is in the spelling with a fraction. -/
theorem characters_eq_clockText (late : 10 ≤ time.hour) :
    ∃ digits, digits ≤ 9 ∧ 10 ^ (9 - digits) ∣ time.nanosecond ∧
      time.characters = clockText time digits := by
  obtain ⟨digits, rest, le, exact, padded, own⟩ := exists_characters_eq time
  exact ⟨digits, le, exact, by rw [own, padded, zeroPadded_hour late]⟩

/-- Before ten, the text of a time has one character in front of its first mark. -/
theorem exists_characters_eq_of_lt (early : time.hour < 10) :
    ∃ digit rest, time.characters = digit :: ':' :: rest := by
  obtain ⟨digits, rest, -, -, -, own⟩ := exists_characters_eq time
  rw [Nat.toDigits_of_lt_base early] at own
  exact ⟨_, rest, own⟩

theorem isEdge_of_mem_getLast?_time (front : List Char) {character : Char}
    (last : character ∈ (front ++ time.characters).getLast?) : isEdge character = true := by
  obtain ⟨digits, rest, -, -, padded, own⟩ := exists_characters_eq time
  have nonempty : ':' :: rest ≠ [] := List.cons_ne_nil _ _
  rw [own, ← List.append_assoc, List.getLast?_append_of_ne_nil _ nonempty,
    ← List.getLast?_append_of_ne_nil (Text.zeroPadded 2 time.hour) nonempty, ← padded] at last
  exact isEdge_of_mem_getLast?_clock [] last

theorem edged_time (time : Time) : IsEdged time.characters where
  nonempty := by simp [Time.characters]
  first character member := by
    obtain ⟨digits, rest, -, -, -, own⟩ := exists_characters_eq time
    rw [own, ← zeroPadded_zero] at member
    exact isEdge_of_mem_head?_zeroPadded member
  last character member := isEdge_of_mem_getLast?_time [] member

/-- No time is read where a mark stands behind a single character. -/
theorem readSpelling_single_eq_none (digit : Char) (rest : List Char) (fields : Fields)
    {spelling : List Element} (member : spelling ∈ timeSpellings) :
    readSpelling spelling fields (digit :: ':' :: rest) = none := by
  have number : readNumber 2 (digit :: ':' :: rest) = none := by simp [readNumber]
  have hour (behind : List Element) :
      readSpelling (.hour :: behind) fields (digit :: ':' :: rest) = none := by
    rw [readSpelling, Element.read, number]
    rfl
  simp only [timeSpellings, List.mem_cons, List.not_mem_nil, or_false] at member
  rcases member with rfl | rfl | rfl <;> exact hour _

/-- A time from ten on is read back from its text. -/
theorem readTime_characters (late : 10 ≤ time.hour) : readTime time.characters = some time := by
  obtain ⟨digits, le, exact, own⟩ := characters_eq_clockText late
  rw [own]
  exact readTime_clockText le exact

/-- The text of a time before ten is refused. -/
theorem readTime_characters_of_lt (early : time.hour < 10) : readTime time.characters = none := by
  refine readFirst_eq_none fun spelling member => ?_
  obtain ⟨digit, rest, own⟩ := exists_characters_eq_of_lt early
  rw [unwrap_eq_self (edged_time time), own]
  exact readSpelling_single_eq_none digit rest .blank member

/-! ### Date-times -/

/-- A date-time from ten on is read back from its text. -/
theorem readDateTime_characters (late : 10 ≤ moment.time.hour) :
    readDateTime moment.characters = some moment := by
  obtain ⟨digits, le, exact, own⟩ := characters_eq_clockText late
  unfold DateTime.characters
  rw [own]
  exact readDateTime_clockText le exact

theorem edged_moment (moment : DateTime) : IsEdged moment.characters where
  nonempty := by simp [DateTime.characters]
  first character member := by
    rw [DateTime.characters, List.append_assoc] at member
    exact isEdge_of_mem_head?_date member
  last character member := isEdge_of_mem_getLast?_time _ member

/-- The text of a date-time before ten is refused. -/
theorem readDateTime_characters_of_lt (early : moment.time.hour < 10) :
    readDateTime moment.characters = none := by
  have fits := fits_partsOf moment
  obtain ⟨digit, rest, own⟩ := exists_characters_eq_of_lt early
  have text : moment.characters = dateSpelling.flatMap (Element.spell (partsOf moment) 0) ++
      ' ' :: digit :: ':' :: rest := by
    rw [← date_eq_spell, DateTime.characters, own]
    simp
  have clocks : ∀ spelling ∈ dateTimeSpellings,
      readSpelling spelling .blank moment.characters = none := by
    intro spelling member
    obtain ⟨time, listed, marked⟩ := List.mem_flatMap.mp member
    rw [List.mem_cons, List.mem_singleton] at marked
    rcases marked with rfl | rfl
    · rw [text, List.append_assoc, readSpelling_append fits 0 _ _ (by decide)]
      exact readSpelling_single_eq_none digit rest _ listed
    · rw [text, List.append_assoc]
      exact readSpelling_otherMark fits 0 _ _ (by decide) 'T' _ _ (by simp)
  have bare : readSpelling dateSpelling .blank moment.characters = none := by
    have read := readSpelling_append fits 0 dateSpelling [] (by decide) .blank
      (' ' :: digit :: ':' :: rest)
    rw [List.append_nil, ← text] at read
    exact read
  rw [← unwrap_eq_self (edged_moment moment)] at clocks bare
  unfold readDateTime readBareDate
  rw [readFirst_eq_none clocks, readFirst_eq_none (List.forall_mem_singleton.mpr bare)]
  rfl

end Clocks

/-! ### Zoned date-times -/

section Zoned

variable (zoned : ZonedDateTime)

theorem characters_zoned_eq :
    ∃ sign front, zoned.characters = zoned.clock.date.characters ++ ' ' ::
      (zoned.clock.time.characters ++ ' ' :: sign ::
        (front ++ Text.zeroPadded 2 (zoned.offset.natAbs % 60))) := by
  refine ⟨if zoned.offset < 0 then '-' else '+',
    Text.zeroPadded 2 (zoned.offset.natAbs / 3600) ++ ':' ::
      (Text.zeroPadded 2 (zoned.offset.natAbs / 60 % 60) ++ [':']), ?_⟩
  simp only [ZonedDateTime.characters, DateTime.characters, List.append_assoc, List.cons_append,
    List.nil_append]

/-- The text of a zoned date-time has a blank before its clock and another before its offset. -/
theorem two_le_count_blank : 2 ≤ zoned.characters.count ' ' := by
  obtain ⟨sign, front, own⟩ := characters_zoned_eq zoned
  rw [own, List.count_append, List.count_cons_self, List.count_append, List.count_cons_self]
  omega

theorem edged_zoned : IsEdged zoned.characters := by
  obtain ⟨sign, front, own⟩ := characters_zoned_eq zoned
  rw [own]
  refine ⟨by simp, fun character first => isEdge_of_mem_head?_date first, fun character last => ?_⟩
  simp only [← List.cons_append, ← List.append_assoc] at last
  exact isEdge_of_mem_getLast?_zeroPadded last

/-- The text of a zoned date-time is neither a time stamp nor a date-time, whatever it shows. -/
theorem readZoned_characters : readZoned zoned.characters = none := by
  have alone := unwrap_eq_self (edged_zoned zoned)
  have blanks := two_le_count_blank zoned
  have stamp : readStamp (Text.strip Text.isBlank zoned.characters) = none := by
    rw [strip_isBlank_eq_self (edged_zoned zoned)]
    refine Option.eq_none_iff_forall_not_mem.mpr fun _ read => ?_
    have few := count_blank_of_readStamp read
    omega
  have refused (spelling : List Element) (few : spelling.count (.mark ' ') ≤ 1) :
      readSpelling spelling .blank (unwrap zoned.characters) = none := by
    rw [alone]
    refine Option.eq_none_iff_forall_not_mem.mpr fun _ read => ?_
    have same := count_of_readSpelling (by decide : isMark ' ' = true) read
    omega
  have clocks : ∀ spelling ∈ dateTimeSpellings, spelling.count (.mark ' ') ≤ 1 := by decide
  unfold readZoned readDateTime readBareDate
  rw [stamp, readFirst_eq_none fun spelling member => refused spelling (clocks spelling member),
    readFirst_eq_none (List.forall_mem_singleton.mpr (refused dateSpelling (by decide)))]
  rfl

end Zoned

end SqlRecords.Calendar
